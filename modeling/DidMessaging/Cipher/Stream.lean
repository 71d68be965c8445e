import DidMessaging.Bytes
import DidMessaging.Error

namespace DidMessaging

/-- A cipher under one key, vector and associated data that adds a keystream to the message and ends
with a tag of sixteen octets. -/
structure StreamCipher where
  /-- A keystream that covers so many octets. -/
  stream : (size : Nat) → Bytes
  tag : (ciphertext : Bytes) → Bytes

namespace StreamCipher

def encrypt (c : StreamCipher) (message : Bytes) : Bytes :=
  let ciphertext := Bytes.xor message (c.stream message.length)
  ciphertext ++ c.tag ciphertext

def decrypt (c : StreamCipher) (content : Bytes) : Result Bytes :=
  if content.length < 16 then .error (.malformed .content)
  else
    let (ciphertext, received) := content.splitAt (content.length - 16)
    if received = c.tag ciphertext then .ok (Bytes.xor ciphertext (c.stream ciphertext.length))
    else .error (.malformed .content)

end StreamCipher

end DidMessaging
