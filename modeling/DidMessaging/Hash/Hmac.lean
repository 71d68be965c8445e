import DidMessaging.Hash.Sha2

namespace DidMessaging.Hmac

/-- The key filled up with zeros to a block; a longer key is hashed first. -/
def blockKey (hash : Bytes → Bytes) (block : Nat) (key : Bytes) : Bytes :=
  let key := if block < key.length then hash key else key
  key ++ Bytes.zeros (block - key.length)

def mac (hash : Bytes → Bytes) (block : Nat) (key message : Bytes) : Bytes :=
  let key := blockKey hash block key
  hash (key.map (· ^^^ 0x5C) ++ hash (key.map (· ^^^ 0x36) ++ message))

def sha256 : Bytes → Bytes → Bytes := mac DidMessaging.sha256 64

def sha512 : Bytes → Bytes → Bytes := mac DidMessaging.sha512 128

end DidMessaging.Hmac
