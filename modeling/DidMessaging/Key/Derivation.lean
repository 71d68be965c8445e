import DidMessaging.Error
import DidMessaging.Hash.Sha2
import DidMessaging.Text.Utf8

namespace DidMessaging.KeyDerivation

/-! Deriving a wrapping key from a shared secret. Each part of the context carries its length, so
that no part can be taken for another. -/

def sized (part : Bytes) : Bytes :=
  Bytes.ofNat 4 part.length ++ part

/-- What binds a key to its use: the algorithm, both parties, the size of the key in bits and, where
there is one, the tag of the content. -/
def context (algorithm : Bytes) (producer consumer : Option Bytes) (tag : Option Bytes) : Bytes :=
  sized algorithm ++ sized (producer.getD []) ++ sized (consumer.getD []) ++ Bytes.ofNat 4 256
    ++ (tag.map sized).getD []

/-- What is hashed: the number of the only round, the secret and the context. -/
def hashInput (secret algorithm : Bytes) (producer consumer tag : Option Bytes) : Bytes :=
  Bytes.ofNat 4 1 ++ secret ++ context algorithm producer consumer tag

/-- The hash of parts whose lengths are in their fields. -/
def derive (secret : Bytes) (algorithm : String) (producer consumer tag : Option Bytes) : Bytes :=
  sha256 (hashInput secret (Utf8.encode algorithm) producer consumer tag)

/-- A length has to fit into the four octets that there are for it. -/
def checkSize (part : Bytes) : Result Unit :=
  if part.length < UInt32.size then .ok () else .error (.crypto .derivationSize)

def wrappingKey (secret : Bytes) (algorithm : String) (producer consumer tag : Option Bytes) :
    Result Bytes := do
  checkSize (Utf8.encode algorithm)
  checkSize (producer.getD [])
  checkSize (consumer.getD [])
  checkSize (tag.getD [])
  return derive secret algorithm producer consumer tag

end DidMessaging.KeyDerivation
