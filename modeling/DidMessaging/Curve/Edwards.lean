import DidMessaging.Bytes
import DidMessaging.Curve.Modular
import DidMessaging.Hash.Sha2

namespace DidMessaging.Ed25519

def p : Nat := Nat.pow 2 255 - 19

def order : Nat := Nat.pow 2 252 + 27742317777372353535851937790883648493

/-- The coefficient of the curve `-x² + y² = 1 + d x² y²`. -/
def d : Nat := 37095705934669439343138083508754565189542113879843219016388785533085940283555

def sqrtMinusOne : Nat :=
  19681161376707505956807079304988542015446066515923890162744021073123829784752

/-- The point `(x / z, y / z)`, with `t = x y / z`. -/
structure Point where
  (x y z t : Nat)

def zero : Point := ⟨0, 1, 1, 0⟩

def base : Point where
  x := 15112221349535400772501151409588531511454012693041857206046113283949847762202
  y := 46316835694926478169428394003475163141307993866256225615783033603165251855960
  z := 1
  t := 46827403850823179245072216630277197565144205554125654976674165829533817101731

def add (a b : Point) : Point :=
  let A := Modular.mul p (Modular.sub p a.y a.x) (Modular.sub p b.y b.x)
  let B := Modular.mul p (Modular.add p a.y a.x) (Modular.add p b.y b.x)
  let C := Modular.mul p (Modular.mul p (2 * d) a.t) b.t
  let D := Modular.mul p (2 * a.z) b.z
  let E := Modular.sub p B A
  let F := Modular.sub p D C
  let G := Modular.add p D C
  let H := Modular.add p B A
  ⟨Modular.mul p E F, Modular.mul p G H, Modular.mul p F G, Modular.mul p E H⟩

def neg (a : Point) : Point := ⟨Modular.neg p a.x, a.y, a.z, Modular.neg p a.t⟩

def multiple (n : Nat) (a : Point) : Point :=
  (bitsOf 256 n).foldl (fun acc bit => let twice := add acc acc; if bit then add twice a else twice)
    zero

/-- The second coordinate, and in the highest bit whether the first is odd. -/
def compress (a : Point) : Bytes :=
  let zi := Modular.inv p a.z
  let x := Modular.mul p a.x zi
  let y := Modular.mul p a.y zi
  Bytes.ofNatLE 32 (y + x % 2 * Nat.pow 2 255)

/-- The even square root of `u / v`, if there is one. -/
def squareRoot? (u v : Nat) : Option Nat :=
  let v3 := Modular.mul p v (Modular.mul p v v)
  let v7 := Modular.mul p v (Modular.mul p v3 v3)
  let r := Modular.mul p (Modular.mul p u v3)
    (Modular.pow p (Modular.mul p u v7) ((p - 5) / 8))
  let check := Modular.mul p v (Modular.mul p r r)
  let even (r : Nat) : Nat := if r % 2 = 0 then r else Modular.neg p r
  if check = u then some (even r)
  else if check = Modular.neg p u then some (even (Modular.mul p r sqrtMinusOne))
  else none

/-- The point of 32 octets. A second coordinate beyond `p` counts modulo `p`. -/
def decompress? (bytes : Bytes) : Option Point :=
  let n := Bytes.toNatLE bytes
  let y := n % Nat.pow 2 255 % p
  let yy := Modular.mul p y y
  let root := squareRoot? (Modular.sub p yy 1) (Modular.add p (Modular.mul p d yy) 1)
  root.map fun x =>
    let x := if n.testBit 255 then Modular.neg p x else x
    ⟨x, y, 1, Modular.mul p x y⟩

def scalarOf (message : Bytes) : Nat := Bytes.toNatLE (sha512 message) % order

/-- The secret scalar of a private key, and the key of its nonces. -/
def expand (privateKey : Bytes) : Nat × Bytes :=
  let h := sha512 privateKey
  let n := Bytes.toNatLE (h.take 32) % Nat.pow 2 254
  (n - n % 8 + Nat.pow 2 254, h.drop 32)

def publicKey (privateKey : Bytes) : Bytes :=
  compress (multiple (expand privateKey).1 base)

@[simp] theorem length_publicKey (privateKey : Bytes) : (publicKey privateKey).length = 32 := by
  simp [publicKey, compress]

def sign (privateKey message : Bytes) : Bytes :=
  let (a, nonceKey) := expand privateKey
  let r := scalarOf (nonceKey ++ message)
  let R := compress (multiple r base)
  let k := scalarOf (R ++ publicKey privateKey ++ message)
  R ++ Bytes.ofNatLE 32 ((r + k * a) % order)

/-- Whether a signature of 64 octets holds under the public key, given also as a point: the first
half has to be the compressed `s B - k A` itself. -/
def verify (publicKey : Bytes) (A : Point) (message signature : Bytes) : Bool :=
  let (R, rest) := signature.splitAt 32
  let s := Bytes.toNatLE rest
  let k := scalarOf (R ++ publicKey ++ message)
  signature.length = 64 && s < order &&
    compress (add (multiple k (neg A)) (multiple s base)) == R

end DidMessaging.Ed25519
