import DidMessaging.Bytes
import DidMessaging.Hash.Sha2

namespace DidMessaging.ChaCha

/-! The state is four rows of four words; a round works on the four columns at once. -/

abbrev Row := List UInt32

structure State where
  (a b c d : Row)

namespace Row

def add (x y : Row) : Row := List.zipWith (· + ·) x y

def xor (x y : Row) : Row := List.zipWith (· ^^^ ·) x y

def rotateWords (n : Nat) (x : Row) : Row := x.map fun w => Word.rotateRight w (32 - n)

def shift (n : Nat) (x : Row) : Row := x.drop n ++ x.take n

end Row

def halfQuarter (m n : Nat) (s : State) : State :=
  let a := Row.add s.a s.b
  let d := Row.rotateWords m (Row.xor s.d a)
  let c := Row.add s.c d
  let b := Row.rotateWords n (Row.xor s.b c)
  ⟨a, b, c, d⟩

def quarter (s : State) : State :=
  halfQuarter 8 7 (halfQuarter 16 12 s)

def doubleRound (s : State) : State :=
  let s := quarter s
  let s := quarter ⟨s.a, Row.shift 1 s.b, Row.shift 2 s.c, Row.shift 3 s.d⟩
  ⟨s.a, Row.shift 3 s.b, Row.shift 2 s.c, Row.shift 1 s.d⟩

def doubleRounds : Nat → State → State
  | 0, s => s
  | n + 1, s => doubleRounds n (doubleRound s)

def words (bytes : Bytes) : Row :=
  (chunks 4 bytes).map fun b => UInt32.ofNat (Bytes.toNatLE b)

def octets (row : Row) : Bytes :=
  row.flatMap fun w => Bytes.ofNatLE 4 w.toNat

/-- The first row spells "expand 32-byte k". -/
def constants : Row := words ("expand 32-byte k".toList.map fun c => UInt8.ofNat c.toNat)

def start (key last : Bytes) : State :=
  ⟨constants, words (key.take 16), words (key.drop 16), words last⟩

def block (key nonce : Bytes) (counter : Nat) : Bytes :=
  let s := start key (Bytes.ofNatLE 4 counter ++ nonce)
  let t := doubleRounds 10 s
  octets (Row.add t.a s.a) ++ octets (Row.add t.b s.b) ++ octets (Row.add t.c s.c)
    ++ octets (Row.add t.d s.d)

/-- As many blocks as cover `size` octets; the first counter is 1. -/
def keystream (key nonce : Bytes) (size : Nat) : Bytes :=
  (List.range ((size + 63) / 64)).flatMap fun i => block key nonce (i + 1)

/-- A key of its own for the first sixteen octets of a long nonce. -/
def deriveKey (key nonce : Bytes) : Bytes :=
  let t := doubleRounds 10 (start key nonce)
  octets t.a ++ octets t.d

end DidMessaging.ChaCha
