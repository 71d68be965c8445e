namespace DidMessaging

/-- A sign and the remaining 63 bits, exponent before fraction. -/
structure Binary64 where
  negative : Bool
  magnitude : Nat
deriving DecidableEq, Repr, Inhabited

namespace Binary64

def infinity : Nat := 0x7FF * Nat.pow 2 52

/-- The fraction with its leading bit, and the exponent of its last bit, raised by 1074. -/
def split (magnitude : Nat) : Nat × Nat :=
  let exponent := magnitude >>> 52
  let fraction := magnitude % Nat.pow 2 52
  if exponent = 0 then (fraction, 0) else (fraction + Nat.pow 2 52, exponent - 1)

def ratio (magnitude : Nat) : Nat × Nat :=
  let (m, e) := split magnitude
  if 1074 ≤ e then (m * Nat.pow 2 (e - 1074), 1) else (m, Nat.pow 2 (1074 - e))

/-- The natural number nearest to `num / den`, of two the even one. -/
def roundHalfEven (num den : Nat) : Nat :=
  let q := num / den
  let r := num % den
  if 2 * r < den then q
  else if den < 2 * r then q + 1
  else q + q % 2

/-- `num * 2 ^ 1074 / den` lies between `2 ^ e` and `2 ^ (e + 1)`. -/
def exponentOf (num den : Nat) : Nat :=
  (num * Nat.pow 2 1074 / den).log2

/-- The magnitude nearest to `num / den`, of two the even one; `infinity` and above when there is
none. -/
def nearest (num den : Nat) : Nat :=
  let scaled := num * Nat.pow 2 1074
  let e := exponentOf num den - 52
  e * Nat.pow 2 52 + roundHalfEven scaled (den * Nat.pow 2 e)

def mul (a b : Nat) : Nat :=
  let (n₁, d₁) := ratio a
  let (n₂, d₂) := ratio b
  nearest (n₁ * n₂) (d₁ * d₂)

def div (a b : Nat) : Nat :=
  let (n₁, d₁) := ratio a
  let (n₂, d₂) := ratio b
  nearest (n₁ * d₂) (d₁ * n₂)

end Binary64

end DidMessaging
