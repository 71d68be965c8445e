import DidMessaging.Json.Binary64

namespace DidMessaging.Binary64

/-! The fewest decimal digits that read back as a given number, and of those the nearest; a tie goes
to the even digit. -/

/-- `digits * 10 ^ exponent`, without the zeros at the end of `digits`. -/
structure Decimal where
  digits : Nat
  exponent : Int
deriving DecidableEq, Repr

/-- The reals that round to a magnitude, as `low / unit` and `high / unit`; the ends belong to it
when `closed` holds. -/
structure Interval where
  low : Nat
  value : Nat
  high : Nat
  unit : Nat
  closed : Bool

def interval (magnitude : Nat) : Interval :=
  let (m, e) := split magnitude
  let below := if m = Nat.pow 2 52 ∧ e ≠ 0 then 1 else 2
  let (scale, unit) := if 1076 ≤ e then (Nat.pow 2 (e - 1076), 1) else (1, Nat.pow 2 (1076 - e))
  { low := (4 * m - below) * scale
    value := 4 * m * scale
    high := (4 * m + 2) * scale
    unit
    closed := m % 2 = 0 }

def Interval.contains (i : Interval) (num den : Nat) : Bool :=
  let low := i.low * den
  let high := i.high * den
  let x := num * i.unit
  (low < x && x < high) || (i.closed && (low = x || x = high))

def tenTo (exponent : Int) : Nat × Nat :=
  match exponent with
  | .ofNat n => (Nat.pow 10 n, 1)
  | .negSucc n => (1, Nat.pow 10 (n + 1))

/-- Of the two neighbours of the value on the grid of multiples of `10 ^ exponent`, the nearest in
the interval. -/
def Interval.onGrid? (i : Interval) (exponent : Int) : Option Nat :=
  let (p, q) := tenTo exponent
  let num := i.value * q
  let den := i.unit * p
  let t := num / den
  let lower := i.contains (t * p) q
  let upper := i.contains ((t + 1) * p) q
  if lower && upper then some (roundHalfEven num den)
  else if lower then some t
  else if upper then some (t + 1)
  else none

def decimalExponent (num den : Nat) : Int :=
  if den ≤ num then ((Nat.toDigits 10 (num / den)).length - 1 : Nat)
  else
    let k := (Nat.toDigits 10 (den / num)).length
    if den ≤ num * Nat.pow 10 (k - 1) then -((k - 1 : Nat) : Int) else -(k : Int)

def Decimal.strip : (fuel : Nat) → Decimal → Decimal
  | 0, d => d
  | fuel + 1, d =>
    if d.digits ≠ 0 ∧ d.digits % 10 = 0 then strip fuel ⟨d.digits / 10, d.exponent + 1⟩ else d

/-- The first grid, from one digit to seventeen, that meets the interval of the value. -/
def shortest (magnitude : Nat) : Decimal :=
  if magnitude = 0 then ⟨0, 0⟩
  else
    let i := interval magnitude
    let top := decimalExponent i.value i.unit
    let found := (List.range 17).findSome? fun (k : Nat) =>
      (i.onGrid? (top - k)).map fun digits => Decimal.mk digits (top - k)
    (found.getD ⟨0, 0⟩).strip 17

end DidMessaging.Binary64
