import DidMessaging.Json.Token

namespace DidMessaging

namespace Number

/-! The decimal digits of a natural number. -/

/-- What digits stand for. -/
def valuesOf (cs : List Char) : List Nat :=
  cs.map fun c => c.toNat - 48

@[simp] theorem valuesOf_nil : valuesOf [] = [] := rfl

theorem natOfDigits_toDigits (n : Nat) : natOfDigits (valuesOf (Nat.toDigits 10 n)) = n := by
  have same (cs : List Char) (start : Nat) :
      (cs.map fun c => c.toNat - 48).foldl (fun n d => n * 10 + d) start =
        Nat.ofDigitChars 10 cs start := by
    rw [List.foldl_map, Nat.ofDigitChars]
    simp [Nat.mul_comm]
  rw [natOfDigits, valuesOf, same, Nat.ofDigitChars_toDigits] <;> decide

theorem isDigit_of_mem_toDigits {n : Nat} (member : c ∈ Nat.toDigits 10 n) : c.isDigit = true :=
  Nat.isDigit_of_mem_toDigits (by decide) (by decide) member

/-- Only the number zero begins with that digit. -/
theorem toDigits_eq_cons (n : Nat) :
    ∃ c cs, Nat.toDigits 10 n = c :: cs ∧ (c = '0' → n = 0) := by
  induction n using Nat.strongRecOn with
  | ind n ih =>
      by_cases small : n < 10
      · exact ⟨n.digitChar, [], Nat.toDigits_of_lt_base small, Nat.digitChar_eq_zero.mp⟩
      · obtain ⟨c, cs, digits, zero⟩ := ih (n / 10) (by omega)
        have step := Nat.toDigits_of_base_le (b := 10) (n := n) (by decide) (by omega)
        rw [digits] at step
        exact ⟨c, _, step, fun same => by have := zero same; omega⟩

/-! A number in the form in which it may be written. -/

structure Numeral where
  whole : List Char
  fraction : List Char := []
  exponent : Option (Bool × List Char) := none

namespace Numeral

def fractionChars : List Char → List Char
  | [] => []
  | c :: cs => '.' :: c :: cs

def exponentChars : Option (Bool × List Char) → List Char
  | none => []
  | some (negative, ds) => 'e' :: (if negative then '-' else '+') :: ds

def chars (p : Numeral) : List Char :=
  p.whole ++ (fractionChars p.fraction ++ exponentChars p.exponent)

def lexeme (p : Numeral) (negative : Bool) : Lexeme :=
  ⟨negative, valuesOf p.whole, valuesOf p.fraction, p.exponent.map fun (n, ds) => (n, valuesOf ds)⟩

structure Lawful (p : Numeral) : Prop where
  whole : ∀ c ∈ p.whole, c.isDigit = true
  /-- No zeros in front. -/
  leading : ∃ c cs, p.whole = c :: cs ∧ (c = '0' → cs = [])
  fraction : ∀ c ∈ p.fraction, c.isDigit = true
  exponent : ∀ e ∈ p.exponent, e.2 ≠ [] ∧ ∀ c ∈ e.2, c.isDigit = true

def ofNat (n : Nat) : Numeral where
  whole := Nat.toDigits 10 n

theorem leading_toDigits (n : Nat) :
    ∃ c cs, Nat.toDigits 10 n = c :: cs ∧ (c = '0' → cs = []) := by
  obtain ⟨c, cs, digits, zero⟩ := toDigits_eq_cons n
  refine ⟨c, cs, digits, fun first => ?_⟩
  rw [zero first, Nat.toDigits_zero] at digits
  exact (List.cons.inj digits).2.symm

theorem lawful_ofNat (n : Nat) : (ofNat n).Lawful where
  whole := fun _ => isDigit_of_mem_toDigits
  leading := leading_toDigits n
  fraction := by simp [ofNat]
  exponent := by simp [ofNat]

@[simp] theorem chars_ofNat (n : Nat) : (ofNat n).chars = Nat.toDigits 10 n := by
  simp [chars, ofNat, fractionChars, exponentChars]

end Numeral

/-- Whole numbers, the negative ones in their range. -/
def Whole : Number → Prop
  | .nat _ => True
  | .negSucc n => n.toNat < Nat.pow 2 63
  | .float _ => False

theorem value?_nat (n : UInt64) :
    ((Numeral.ofNat n.toNat).lexeme false).value? = some (.nat n) := by
  have small := n.toNat_lt
  simp [Numeral.lexeme, Numeral.ofNat, Lexeme.value?, natOfDigits_toDigits, small]

theorem value?_negSucc {n : UInt64} (small : n.toNat < Nat.pow 2 63) :
    ((Numeral.ofNat (n.toNat + 1)).lexeme true).value? = some (.negSucc n) := by
  have bounds : 0 < n.toNat + 1 ∧ n.toNat + 1 ≤ Nat.pow 2 63 := ⟨Nat.succ_pos _, small⟩
  simp only [Numeral.lexeme, Numeral.ofNat, Lexeme.value?, natOfDigits_toDigits, if_pos bounds]
  simp

end Number

namespace Json.Token

open Number

/-- What may follow a value: nothing, or what goes on with or ends the array or object around it. -/
def Ends (rest : Scanned) : Prop :=
  ∀ c ∈ rest.head?, c = some ',' ∨ c = some ']' ∨ c = some '\x7d'

theorem ends_nil : Ends [] := by simp [Ends]

theorem ends_cons {c : Char} (ends : c = ',' ∨ c = ']' ∨ c = '\x7d') (rest : Scanned) :
    Ends (some c :: rest) := by
  simpa [Ends] using ends

/-- Digits do not go on. -/
def Stops (rest : Scanned) : Prop :=
  ∀ c, some c ∈ rest.head? → c.isDigit = false

theorem Ends.stops (ends : Ends rest) : Stops rest := by
  intro c first
  rcases ends (some c) first with same | same | same <;> cases same <;> rfl

theorem stops_cons {c : Char} (notDigit : c.isDigit = false) (rest : Scanned) :
    Stops (some c :: rest) := by
  intro d same
  obtain rfl : c = d := by simpa using same
  exact notDigit

theorem digits_of_stops (stops : Stops rest) : digits rest = ([], rest) := by
  match rest with
  | [] => rfl
  | none :: rest => rfl
  | some c :: rest =>
      have notDigit := stops c rfl
      simp [digits, notDigit]

theorem digits_append {cs : List Char} (stops : Stops rest) (all : ∀ c ∈ cs, c.isDigit = true) :
    digits (cs.map some ++ rest) = (valuesOf cs, rest) := by
  induction cs with
  | nil => exact digits_of_stops stops
  | cons c cs ih =>
      have head := all c List.mem_cons_self
      have tail := ih fun d member => all d (List.mem_cons_of_mem _ member)
      simp only [List.map_cons, List.cons_append, digits, head, tail, if_true, valuesOf]

/-! The parts of a number. -/

theorem whole?_append {p : Numeral} (lawful : p.Lawful) (stops : Stops rest) :
    whole? (p.whole.map some ++ rest) = some (valuesOf p.whole, rest) := by
  have read := digits_append stops lawful.whole
  obtain ⟨c, cs, digitsEq, zero⟩ := lawful.leading
  rw [digitsEq] at read ⊢
  by_cases first : c = '0'
  · obtain rfl := zero first
    rw [first]
    rfl
  · rw [List.map_cons, List.cons_append] at read ⊢
    unfold whole?
    split
    · simp_all
    · rw [read]
      simp [valuesOf]

theorem fraction?_append {cs : List Char} (stops : Stops rest)
    (noPoint : some (some '.') ≠ rest.head?) (all : ∀ c ∈ cs, c.isDigit = true) :
    fraction? ((Numeral.fractionChars cs).map some ++ rest) = some (valuesOf cs, rest) := by
  cases cs with
  | nil =>
      rw [Numeral.fractionChars, List.map_nil, List.nil_append]
      unfold fraction?
      split
      · simp at noPoint
      · rfl
  | cons c cs =>
      have read := digits_append stops all
      simp only [Numeral.fractionChars, List.map_cons, List.cons_append, fraction?] at read ⊢
      rw [read]
      simp [valuesOf]

theorem exponent?_append {exponent : Option (Bool × List Char)} (ends : Ends rest)
    (lawful : ∀ e ∈ exponent, e.2 ≠ [] ∧ ∀ c ∈ e.2, c.isDigit = true) :
    exponent? ((Numeral.exponentChars exponent).map some ++ rest) =
      some (exponent.map fun (n, ds) => (n, valuesOf ds), rest) := by
  cases exponent with
  | none =>
      cases rest with
      | nil => rfl
      | cons c rest => rcases ends c rfl with rfl | rfl | rfl <;> rfl
  | some e =>
      obtain ⟨negative, ds⟩ := e
      obtain ⟨nonempty, all⟩ := lawful _ rfl
      have read := digits_append ends.stops all
      have found : exponentDigits? negative (ds.map some ++ rest) =
          some (some (negative, valuesOf ds), rest) := by
        rw [exponentDigits?, read]
        cases ds with
        | nil => contradiction
        | cons d ds => rfl
      cases negative <;> exact found

theorem stops_exponent (ends : Ends rest) (exponent : Option (Bool × List Char)) :
    Stops ((Numeral.exponentChars exponent).map some ++ rest) ∧
      some (some '.') ≠ ((Numeral.exponentChars exponent).map some ++ rest).head? := by
  cases exponent with
  | none =>
      refine ⟨ends.stops, fun point => ?_⟩
      rcases ends _ point.symm with same | same | same <;> simp at same
  | some e => exact ⟨stops_cons rfl _, by simp [Numeral.exponentChars]⟩

theorem stops_fraction (cs : List Char) (stops : Stops rest) :
    Stops ((Numeral.fractionChars cs).map some ++ rest) := by
  cases cs with
  | nil => exact stops
  | cons c cs => exact stops_cons rfl _

theorem magnitude?_chars {p : Numeral} (lawful : p.Lawful) (ends : Ends rest) (negative : Bool) :
    magnitude? negative (p.chars.map some ++ rest) = some (p.lexeme negative, rest) := by
  obtain ⟨stops, noPoint⟩ := stops_exponent ends p.exponent
  rw [Numeral.chars, List.map_append, List.map_append, List.append_assoc, List.append_assoc,
    magnitude?, whole?_append lawful (stops_fraction _ stops)]
  simp only [Option.bind_eq_bind, Option.bind_some, fraction?_append stops noPoint lawful.fraction,
    exponent?_append ends lawful.exponent]
  rfl

/-- A number is read up to its end, and begins with a sign or digit. -/
theorem number?_chars {p : Numeral} (lawful : p.Lawful) (ends : Ends rest) :
    number? (p.chars.map some ++ rest) = some (p.lexeme false, rest) ∧
      number? (some '-' :: (p.chars.map some ++ rest)) = some (p.lexeme true, rest) := by
  refine ⟨?_, magnitude?_chars lawful ends true⟩
  have read := magnitude?_chars lawful ends false
  obtain ⟨c, cs, first, -⟩ := lawful.leading
  have digit : c.isDigit = true := lawful.whole c (by simp [first])
  rw [Numeral.chars, first, List.cons_append, List.map_cons, List.cons_append] at read ⊢
  unfold number?
  split
  · next rest' same =>
      obtain rfl : c = '-' := by simpa using (List.cons.inj same).1
      contradiction
  · exact read

end Json.Token

end DidMessaging
