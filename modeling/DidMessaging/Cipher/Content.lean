import DidMessaging.Cipher.CbcHmac
import DidMessaging.Cipher.Gcm
import DidMessaging.Cipher.XChaChaPoly

namespace DidMessaging.ContentAlgorithm

/-- A wrong size of the vector is the message's fault, one of the key is not. -/
def checkSizes (a : ContentAlgorithm) (iv key : Bytes) : Result Unit :=
  if iv.length ≠ a.ivSize then .error (.malformed (.ivSize a iv.length))
  else if key.length ≠ a.keySize then .error (.crypto (.contentKeySize a key.length))
  else .ok ()

/-- For a vector and a key of the right sizes. -/
def encryptSized (a : ContentAlgorithm) (iv key message associated : Bytes) : Bytes :=
  match a with
  | .a256cbcHs512 => CbcHmac.encrypt iv key message associated
  | .xc20p => (XChaChaPoly.cipher iv key associated).encrypt message
  | .a256gcm => (Gcm.cipher iv key associated).encrypt message

/-- For a vector and a key of the right sizes. -/
def decryptSized (a : ContentAlgorithm) (iv key content associated : Bytes) : Result Bytes :=
  match a with
  | .a256cbcHs512 => CbcHmac.decrypt iv key content associated
  | .xc20p => (XChaChaPoly.cipher iv key associated).decrypt content
  | .a256gcm => (Gcm.cipher iv key associated).decrypt content

def encrypt (a : ContentAlgorithm) (iv key message associated : Bytes) : Result Bytes := do
  a.checkSizes iv key
  return a.encryptSized iv key message associated

def decrypt (a : ContentAlgorithm) (iv key content associated : Bytes) : Result Bytes := do
  a.checkSizes iv key
  a.decryptSized iv key content associated

end DidMessaging.ContentAlgorithm
