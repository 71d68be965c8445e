import DidMessaging.Cipher.ChaCha
import DidMessaging.Cipher.Stream

namespace DidMessaging

namespace Poly1305

def modulus : Nat := Nat.pow 2 130 - 5

def clamp (r : Nat) : Nat := r &&& 0x0FFFFFFC0FFFFFFC0FFFFFFC0FFFFFFF

def mac (key message : Bytes) : Bytes :=
  let r := clamp (Bytes.toNatLE (key.take 16))
  let sum := (chunks 16 message).foldl
    (fun sum block => (sum + Bytes.toNatLE block + Nat.pow 256 block.length) * r % modulus) 0
  Bytes.ofNatLE 16 (sum + Bytes.toNatLE (key.drop 16))

end Poly1305

namespace XChaChaPoly

def subkey (key iv : Bytes) : Bytes := ChaCha.deriveKey key (iv.take 16)

def nonce (iv : Bytes) : Bytes := Bytes.zeros 4 ++ iv.drop 16

/-- What is authenticated: both parts filled up to whole blocks, then their lengths. -/
def macInput (associated ciphertext : Bytes) : Bytes :=
  associated ++ Bytes.fill 16 associated.length ++ ciphertext ++ Bytes.fill 16 ciphertext.length
    ++ Bytes.ofNatLE 8 associated.length ++ Bytes.ofNatLE 8 ciphertext.length

def tag (key nonce associated ciphertext : Bytes) : Bytes :=
  Poly1305.mac ((ChaCha.block key nonce 0).take 32) (macInput associated ciphertext)

def cipher (iv key associated : Bytes) : StreamCipher :=
  let key := subkey key iv
  { stream := ChaCha.keystream key (nonce iv), tag := tag key (nonce iv) associated }

end XChaChaPoly

end DidMessaging
