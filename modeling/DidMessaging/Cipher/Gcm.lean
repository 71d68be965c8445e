import DidMessaging.Cipher.Aes
import DidMessaging.Cipher.Stream

namespace DidMessaging.Gcm

/-! The number of a block stands in its last 32 bits, behind an initialization vector of 96 bits. -/

/-- The field polynomial, first coefficient first. -/
def polynomial : Nat := 0xE1 <<< 120

/-- The product with the polynomial `x`; the highest bit is the first coefficient. -/
def double (v : Nat) : Nat :=
  if v % 2 = 0 then v >>> 1 else (v >>> 1) ^^^ polynomial

/-- Adds to `sum` the multiples of `y` for the lowest `bits` bits of `x`, from the highest of them.
-/
def mulFrom (x : Nat) : (bits : Nat) → (y : Nat) → (sum : Nat) → Nat
  | 0, _, sum => sum
  | bits + 1, y, sum => mulFrom x bits (double y) (if x.testBit bits then sum ^^^ y else sum)

/-- The product of two field elements. -/
def mul (x y : Nat) : Nat := mulFrom x 128 y 0

def hash (h : Nat) (bytes : Bytes) : Nat :=
  (chunks 16 bytes).foldl (fun y block => mul (y ^^^ Bytes.toNat block) h) 0

/-- What is authenticated: both parts filled up to whole blocks, then their lengths in bits. -/
def macInput (associated ciphertext : Bytes) : Bytes :=
  associated ++ Bytes.fill 16 associated.length ++ ciphertext ++ Bytes.fill 16 ciphertext.length
    ++ Bytes.ofNat 8 (8 * associated.length) ++ Bytes.ofNat 8 (8 * ciphertext.length)

/-- The encrypted counter block with number `n`. -/
def counterBlock (keys : List Aes.Block) (iv : Bytes) (n : Nat) : Bytes :=
  Aes.encrypt keys (iv ++ Bytes.ofNat 4 n)

/-- As many encrypted counter blocks as cover `size` octets; the first counter is 2. -/
def keystream (keys : List Aes.Block) (iv : Bytes) (size : Nat) : Bytes :=
  (List.range ((size + 15) / 16)).flatMap fun i => counterBlock keys iv (i + 2)

def tag (keys : List Aes.Block) (iv associated ciphertext : Bytes) : Bytes :=
  let h := Bytes.toNat (Aes.encrypt keys (Bytes.zeros 16))
  Bytes.xor (Bytes.ofNat 16 (hash h (macInput associated ciphertext))) (counterBlock keys iv 1)

def cipher (iv key associated : Bytes) : StreamCipher :=
  let keys := Aes.roundKeys key
  { stream := keystream keys iv, tag := tag keys iv associated }

end DidMessaging.Gcm
