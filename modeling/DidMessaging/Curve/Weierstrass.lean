import DidMessaging.Bytes
import DidMessaging.Curve.Modular

namespace DidMessaging

/-! Curves `y² = x³ + a x + b` of prime order over prime fields. -/

structure Weierstrass where
  p : Nat
  a : Nat
  b : Nat
  order : Nat
  baseX : Nat
  baseY : Nat

namespace Weierstrass

def p256 : Weierstrass where
  p := Nat.pow 2 256 - Nat.pow 2 224 + Nat.pow 2 192 + Nat.pow 2 96 - 1
  a := Nat.pow 2 256 - Nat.pow 2 224 + Nat.pow 2 192 + Nat.pow 2 96 - 4
  b := 41058363725152142129326129780047268409114441015993725554835256314039467401291
  order := 115792089210356248762697446949407573529996955224135760342422259061068512044369
  baseX := 48439561293906451759052585252797914202762949526041747995844080717082404635286
  baseY := 36134250956749795798585127919587881956611106672985015071877198253568414405109

def secp256k1 : Weierstrass where
  p := Nat.pow 2 256 - Nat.pow 2 32 - 977
  a := 0
  b := 7
  order := 115792089237316195423570985008687907852837564279074904382605163141518161494337
  baseX := 55066263022277343669578718895168534326250603453777594175500187360389116729240
  baseY := 32670510020758816978083085130507043184471273380659243275938904335757337482424

/-- The point `(x / z, y / z)`; `z` is zero for the neutral point. -/
structure Point where
  (x y z : Nat)

def zero : Point := ⟨0, 1, 0⟩

def base (c : Weierstrass) : Point := ⟨c.baseX, c.baseY, 1⟩

def add (c : Weierstrass) (s t : Point) : Point :=
  let xx := Modular.mul c.p s.x t.x
  let yy := Modular.mul c.p s.y t.y
  let zz := Modular.mul c.p s.z t.z
  let xy := Modular.add c.p (s.x * t.y) (t.x * s.y)
  let xz := Modular.add c.p (s.x * t.z) (t.x * s.z)
  let yz := Modular.add c.p (s.y * t.z) (t.y * s.z)
  let k := Modular.add c.p (c.a * xz) (3 * c.b * zz)
  let m := Modular.sub c.p (Modular.add c.p (c.a * xx) (3 * c.b * xz))
    (Modular.mul c.p (c.a * c.a) zz)
  let n := Modular.add c.p (3 * xx) (c.a * zz)
  let minus := Modular.sub c.p yy k
  let plus := Modular.add c.p yy k
  ⟨Modular.sub c.p (Modular.mul c.p xy minus) (Modular.mul c.p yz m),
    Modular.add c.p (n * m) (plus * minus),
    Modular.add c.p (yz * plus) (xy * n)⟩

def multiple (c : Weierstrass) (n : Nat) (s : Point) : Point :=
  (bitsOf 256 n).foldl
    (fun acc bit => let twice := c.add acc acc; if bit then c.add twice s else twice) zero

def isZero (s : Point) : Bool := s.z = 0

/-- The coordinates of a point other than the neutral one. -/
def coordinates (c : Weierstrass) (s : Point) : Nat × Nat :=
  let zi := Modular.inv c.p s.z
  (Modular.mul c.p s.x zi, Modular.mul c.p s.y zi)

def cubic (c : Weierstrass) (x : Nat) : Nat :=
  Modular.add c.p (Modular.mul c.p (Modular.mul c.p x x) x) (c.a * x + c.b)

def point? (c : Weierstrass) (x y : Nat) : Option Point :=
  if x < c.p ∧ y < c.p ∧ Modular.mul c.p y y = c.cubic x then some ⟨x, y, 1⟩ else none

/-- The second coordinate for a first one that `choose` picks; the field has 3 modulo 4 elements. -/
def lift? (c : Weierstrass) (x : Nat) (choose : Nat → Bool) : Option Point :=
  let y := Modular.pow c.p (c.cubic x) ((c.p + 1) / 4)
  if x < c.p ∧ Modular.mul c.p y y = c.cubic x then
    some ⟨x, if choose y then y else Modular.neg c.p y, 1⟩
  else none

/-- A point as octets: both coordinates, or the first and which of the two others goes with it. -/
def decode? (c : Weierstrass) : Bytes → Option Point
  | [] => none
  | mark :: rest =>
    if mark = 4 ∧ rest.length = 64 then
      c.point? (Bytes.toNat (rest.take 32)) (Bytes.toNat (rest.drop 32))
    else if rest.length = 32 then
      let x := Bytes.toNat rest
      if mark = 2 then c.lift? x (· % 2 = 0)
      else if mark = 3 then c.lift? x (· % 2 = 1)
      else if mark = 5 then
        c.lift? x fun y => if c.a = 0 then y % 2 = 0 else y ≤ Modular.neg c.p y
      else none
    else none

def encode (x y : Bytes) : Bytes := 4 :: x ++ y

/-- A private scalar of 32 octets; up to eight zeros at the front may be missing. -/
def scalar? (c : Weierstrass) (key : Bytes) : Option Nat :=
  let n := Bytes.toNat key
  if 24 ≤ key.length ∧ key.length ≤ 32 ∧ 0 < n ∧ n < c.order then some n else none

def publicKey (c : Weierstrass) (n : Nat) : Bytes × Bytes :=
  let (x, y) := c.coordinates (c.multiple n c.base)
  (Bytes.ofNat 32 x, Bytes.ofNat 32 y)

def agree (c : Weierstrass) (n : Nat) (s : Point) : Bytes :=
  Bytes.ofNat 32 (c.coordinates (c.multiple n s)).1

@[simp] theorem length_agree (c : Weierstrass) (n : Nat) (s : Point) :
    (c.agree n s).length = 32 := by
  simp [agree]

end Weierstrass

end DidMessaging
