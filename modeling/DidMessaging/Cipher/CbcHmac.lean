import DidMessaging.Cipher.Aes
import DidMessaging.Hash.Hmac
import DidMessaging.Error

namespace DidMessaging.CbcHmac

/-! The first half of the key authenticates, the second encrypts. -/

/-- The message filled up to whole blocks; each octet added says how many there are. -/
def pad (message : Bytes) : Bytes :=
  let n := 16 - message.length % 16
  message ++ List.replicate n (UInt8.ofNat n)

def unpad? (padded : Bytes) : Option Bytes := do
  let last ← padded.getLast?
  let n := last.toNat
  guard (1 ≤ n ∧ n ≤ 16 ∧ n ≤ padded.length)
  let (message, filling) := padded.splitAt (padded.length - n)
  guard (filling.all (· == last))
  return message

/-- Each block is added to the ciphertext before it and then encrypted. -/
def chain (keys : List Aes.Block) : (previous : Bytes) → List Bytes → List Bytes
  | _, [] => []
  | previous, block :: rest =>
    let c := Aes.encrypt keys (Bytes.xor block previous)
    c :: chain keys c rest

def unchain (keys : List Aes.Block) : (previous : Bytes) → List Bytes → List Bytes
  | _, [] => []
  | previous, c :: rest => Bytes.xor (Aes.decrypt keys c) previous :: unchain keys c rest

def cbcEncrypt (key iv message : Bytes) : Bytes :=
  (chain (Aes.roundKeys key) iv (chunks 16 (pad message))).flatten

def cbcDecrypt? (key iv ciphertext : Bytes) : Option Bytes :=
  if ciphertext.length % 16 = 0 then
    unpad? (unchain (Aes.roundKeys key) iv (chunks 16 ciphertext)).flatten
  else none

/-- What is authenticated. The length of the associated data in bits ends it, so that nothing can
move from one part to another. -/
def macInput (associated iv ciphertext : Bytes) : Bytes :=
  associated ++ iv ++ ciphertext ++ Bytes.ofNat 8 (8 * associated.length)

def tag (key associated iv ciphertext : Bytes) : Bytes :=
  (Hmac.sha512 key (macInput associated iv ciphertext)).take 32

def encrypt (iv key message associated : Bytes) : Bytes :=
  let ciphertext := cbcEncrypt (key.drop 32) iv message
  ciphertext ++ tag (key.take 32) associated iv ciphertext

def decrypt (iv key sealed associated : Bytes) : Result Bytes :=
  if sealed.length < 32 then .error (.malformed .ciphertextSize)
  else
    let (ciphertext, received) := sealed.splitAt (sealed.length - 32)
    if received ≠ tag (key.take 32) associated iv ciphertext then .error (.malformed .tagMismatch)
    else match cbcDecrypt? (key.drop 32) iv ciphertext with
      | some message => .ok message
      | none => .error (.malformed .padding)

end DidMessaging.CbcHmac
