import DidMessaging.Bytes

namespace DidMessaging.Positional

/-! The octets are one number, written in the base of the alphabet. Each leading zero octet is one
leading zero digit. -/

def digitsLE (base : Nat) : (fuel : Nat) → Nat → List Nat
  | 0, _ => []
  | fuel + 1, n => if n = 0 then [] else n % base :: digitsLE base fuel (n / base)

def digits (base n : Nat) : List Nat :=
  (digitsLE base (n.log2 + 1) n).reverse

def ofDigits (base : Nat) (ds : List Nat) : Nat :=
  ds.foldl (fun n d => n * base + d) 0

/-- Carries a string of digits to another base; zeros at the front stay as they are. -/
def convert (source target : Nat) (ds : List Nat) : List Nat :=
  ds.takeWhile (· == 0) ++ digits target (ofDigits source ds)

def decode? (alphabet : List Char) (cs : List Char) : Option Bytes :=
  (cs.mapM (alphabet.idxOf? ·)).map fun ds => (convert alphabet.length 256 ds).map UInt8.ofNat

def encode (alphabet : List Char) (bytes : Bytes) : List Char :=
  (convert 256 alphabet.length (bytes.map UInt8.toNat)).map (alphabet.getD · '\x00')

end DidMessaging.Positional

namespace DidMessaging.Base58

def alphabet : List Char :=
  "123456789ABCDEFGHJKLMNPQRSTUVWXYZabcdefghijkmnopqrstuvwxyz".toList

/-- No key needs more octets than this. -/
def limit : Nat := 132

def encode (bytes : Bytes) : String :=
  String.ofList (Positional.encode alphabet bytes)

def decode? (text : String) : Option Bytes :=
  (Positional.decode? alphabet text.toList).filter (·.length ≤ limit)

end DidMessaging.Base58
