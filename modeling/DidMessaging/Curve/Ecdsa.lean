import DidMessaging.Curve.Weierstrass
import DidMessaging.Hash.Hmac

namespace DidMessaging.Ecdsa

/-! The nonce of a signature is derived from the key and the message. -/

structure Generator where
  (key value : Bytes)

namespace Generator

def update (g : Generator) (data : Bytes) : Generator :=
  let key := Hmac.sha256 g.key (g.value ++ data)
  ⟨key, Hmac.sha256 key g.value⟩

def start (seed : Bytes) : Generator :=
  (Generator.mk (Bytes.zeros 32) (List.replicate 32 1)).update (0 :: seed) |>.update (1 :: seed)

/-- The first value that is a scalar; `tries` bounds the search. -/
def nonce? (order : Nat) : (tries : Nat) → Generator → Option Nat
  | 0, _ => none
  | tries + 1, g =>
    let value := Hmac.sha256 g.key g.value
    let n := Bytes.toNat value
    if 0 < n ∧ n < order then some n
    else nonce? order tries (Generator.update ⟨g.key, value⟩ [0])

end Generator

def hash (c : Weierstrass) (message : Bytes) : Nat := Bytes.toNat (sha256 message) % c.order

/-- The nonce for a message. The hash seeds the generator as it is, also where it is no scalar. -/
def nonce? (c : Weierstrass) (privateKey : Nat) (message : Bytes) : Option Nat :=
  Generator.nonce? c.order 64 (.start (Bytes.ofNat 32 privateKey ++ sha256 message))

/-- Of `s` and its negative the smaller one. -/
def low (c : Weierstrass) (s : Nat) : Nat := if c.order / 2 < s then c.order - s else s

/-- Signs with a scalar. With `normalize` the second half of the signature is low. -/
def sign? (c : Weierstrass) (normalize : Bool) (privateKey : Nat) (message : Bytes) :
    Option Bytes := do
  let z := hash c message
  let k ← nonce? c privateKey message
  let r := (c.coordinates (c.multiple k c.base)).1 % c.order
  let s := Modular.mul c.order (Modular.inv c.order k) (z + r * privateKey)
  guard (r ≠ 0 ∧ s ≠ 0)
  return Bytes.ofNat 32 r ++ Bytes.ofNat 32 (if normalize then low c s else s)

/-- Verifies a signature of 64 octets. With `normalize` its second half has to be low. -/
def verify (c : Weierstrass) (normalize : Bool) (publicKey : Weierstrass.Point)
    (message signature : Bytes) : Bool :=
  let r := Bytes.toNat (signature.take 32)
  let s := Bytes.toNat (signature.drop 32)
  if signature.length = 64 ∧ 0 < r ∧ r < c.order ∧ 0 < s ∧ s < c.order ∧ (normalize → low c s = s)
  then
    let w := Modular.inv c.order s
    let u := Modular.mul c.order (hash c message) w
    let v := Modular.mul c.order r w
    let sum := c.add (c.multiple u c.base) (c.multiple v publicKey)
    !Weierstrass.isZero sum && (c.coordinates sum).1 % c.order == r
  else false

end DidMessaging.Ecdsa
