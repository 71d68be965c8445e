import DidMessaging.Json.Shortest

namespace DidMessaging

/-! Whole numbers of 64 bits stay exact, all others are finite binary floating-point numbers. -/

inductive Number
  | nat (n : UInt64)
  /-- `-(n + 1)`, for `n` below `2 ^ 63`. -/
  | negSucc (n : UInt64)
  | float (x : Binary64)
deriving DecidableEq, Repr

namespace Number

def ofNat (n : Nat) : Number := .nat (UInt64.ofNat n)

structure Lexeme where
  negative : Bool
  whole : List Nat
  /-- Empty without a point. -/
  fraction : List Nat
  exponent : Option (Bool × List Nat)
deriving DecidableEq, Repr

/-- A decimal with a significand of at most 64 bits and the number of further digits, which count
only as powers of ten. -/
structure Significand where
  digits : Nat
  scale : Int

/-- Appends a digit of the whole part; after the first one that finds no room each raises the
scale. -/
def Significand.whole (s : Significand) (full : Bool) : List Nat → Significand
  | [] => s
  | d :: ds =>
    let next := s.digits * 10 + d
    if full ∨ Nat.pow 2 64 ≤ next then whole ⟨s.digits, s.scale + 1⟩ true ds
    else whole ⟨next, s.scale⟩ false ds

/-- Appends digits of the fraction up to the first that finds no room. -/
def Significand.fraction (s : Significand) : List Nat → Significand
  | [] => s
  | d :: ds =>
    let next := s.digits * 10 + d
    if Nat.pow 2 64 ≤ next then s else fraction ⟨next, s.scale - 1⟩ ds

/-- A power of ten up to `10 ^ 308`, rounded. -/
def powerOfTen (n : Nat) : Nat := Binary64.nearest (Nat.pow 10 n) 1

/-- Divides by `10 ^ n`, in steps of at most `10 ^ 308`, each rounded. What is left after three
steps is zero. -/
def scaleDown : (steps : Nat) → (magnitude : Nat) → (n : Nat) → Nat
  | 0, _, _ => 0
  | steps + 1, m, n =>
    if n ≤ 308 then Binary64.div m (powerOfTen n)
    else if m = 0 then 0
    else scaleDown steps (Binary64.div m (powerOfTen 308)) (n - 308)

/-- The significand is rounded first and the product or quotient with the power of ten after it.
`none` when the result is too large. -/
def Significand.magnitude? (s : Significand) : Option Nat :=
  let m := Binary64.nearest s.digits 1
  match s.scale with
  | .ofNat n =>
    if m = 0 then some 0
    else if 308 < n then none
    else
      let product := Binary64.mul m (powerOfTen n)
      if product < Binary64.infinity then some product else none
  | .negSucc n => some (scaleDown 3 m (n + 1))

def natOfDigits (ds : List Nat) : Nat :=
  ds.foldl (fun n d => n * 10 + d) 0

/-- Exponents of more than 31 bits stand for a value beyond all others. -/
def exponentLimit : Nat := Nat.pow 2 31

def Lexeme.float? (l : Lexeme) : Option Number :=
  let s := (Significand.whole ⟨0, 0⟩ false l.whole).fraction l.fraction
  let magnitude? : Option Nat :=
    match l.exponent with
    | none => s.magnitude?
    | some (down, ds) =>
      let e := natOfDigits ds
      if exponentLimit ≤ e then
        if s.digits ≠ 0 ∧ ¬ down then none else some 0
      else Significand.magnitude? ⟨s.digits, if down then s.scale - e else s.scale + e⟩
  magnitude?.map fun m => .float ⟨l.negative, m⟩

/-- The value of a number as written; `none` when it is too large. Minus zero is no whole number. -/
def Lexeme.value? (l : Lexeme) : Option Number :=
  if l.fraction ≠ [] ∨ l.exponent.isSome then l.float?
  else
    let n := natOfDigits l.whole
    if ¬ l.negative then
      if n < Nat.pow 2 64 then some (.nat (UInt64.ofNat n)) else l.float?
    else if 0 < n ∧ n ≤ Nat.pow 2 63 then some (.negSucc (UInt64.ofNat (n - 1)))
    else l.float?

end Number

/-- How a floating-point number is written: positional while the leading digit stands for a power
of ten from `least` to `most`, always with a point there, else with an exponent that has its sign.
-/
structure FloatText where
  least : Int
  most : Int

namespace FloatText

def json : FloatText := ⟨-5, 15⟩

def zeros (n : Nat) : List Char := List.replicate n '0'

def decimal (format : FloatText) (d : Binary64.Decimal) : List Char :=
  let ds := Nat.toDigits 10 d.digits
  let top := d.exponent + ((ds.length - 1 : Nat) : Int)
  if format.least ≤ top ∧ top ≤ format.most then
    if 0 ≤ d.exponent then ds ++ zeros d.exponent.toNat ++ ['.', '0']
    else if 0 ≤ top then
      let (whole, fraction) := ds.splitAt (top.toNat + 1)
      whole ++ '.' :: fraction
    else '0' :: '.' :: zeros (-top - 1).toNat ++ ds
  else
    let fraction := match ds with
      | [d] => [d]
      | d :: rest => d :: '.' :: rest
      | [] => []
    let sign := if 0 ≤ top then '+' else '-'
    fraction ++ 'e' :: sign :: Nat.toDigits 10 top.natAbs

end FloatText

namespace Number

def text : Number → List Char
  | .nat n => Nat.toDigits 10 n.toNat
  | .negSucc n => '-' :: Nat.toDigits 10 (n.toNat + 1)
  | .float x =>
    let digits := FloatText.json.decimal (Binary64.shortest x.magnitude)
    if x.negative then '-' :: digits else digits

end Number

end DidMessaging
