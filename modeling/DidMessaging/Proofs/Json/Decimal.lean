import DidMessaging.Proofs.Json.Number

namespace DidMessaging

namespace Binary64

/-! The shortest digits of what is not zero are not zero. -/

theorem split_pos {magnitude : Nat} (nonzero : magnitude ≠ 0) : 0 < (split magnitude).1 := by
  unfold split
  dsimp only
  split
  · next noExponent =>
      have small : magnitude < Nat.pow 2 52 := by
        rw [Nat.shiftRight_eq_div_pow] at noExponent
        exact Nat.lt_of_div_eq_zero (by decide) noExponent
      simp only [Nat.mod_eq_of_lt small]
      omega
  · have leading : 0 < Nat.pow 2 52 := by decide
    dsimp only
    omega

theorem interval_pos {magnitude : Nat} (nonzero : magnitude ≠ 0) :
    0 < (interval magnitude).low ∧ 0 < (interval magnitude).high := by
  have positive := split_pos nonzero
  unfold interval
  generalize split magnitude = parts at positive
  obtain ⟨m, e⟩ := parts
  dsimp only at positive ⊢
  have scale : 0 < (if 1076 ≤ e then (Nat.pow 2 (e - 1076), 1)
      else (1, Nat.pow 2 (1076 - e))).1 := by
    split
    · exact Nat.pow_pos Nat.two_pos
    · exact Nat.one_pos
  refine ⟨Nat.mul_pos ?_ scale, Nat.mul_pos (by omega) scale⟩
  split <;> omega

theorem tenTo_pos (exponent : Int) : 0 < (tenTo exponent).2 := by
  cases exponent with
  | ofNat n => exact Nat.one_pos
  | negSucc n => exact Nat.pow_pos (by decide : 0 < 10)

theorem contains_zero {magnitude : Nat} (nonzero : magnitude ≠ 0) {den : Nat} (positive : 0 < den) :
    (interval magnitude).contains 0 den = false := by
  obtain ⟨low, high⟩ := interval_pos nonzero
  have low := Nat.mul_pos low positive
  have high := Nat.mul_pos high positive
  rw [Interval.contains, Nat.zero_mul]
  simp only [Bool.or_eq_false_iff, Bool.and_eq_false_iff, decide_eq_false_iff_not]
  exact ⟨.inl (Nat.not_lt_zero _), .inr ⟨by omega, by omega⟩⟩

theorem onGrid?_pos {magnitude : Nat} (nonzero : magnitude ≠ 0) {exponent : Int}
    (found : (interval magnitude).onGrid? exponent = some n) : 0 < n := by
  have outside := contains_zero nonzero (tenTo_pos exponent)
  rw [Interval.onGrid?] at found
  generalize tenTo exponent = power at found outside
  obtain ⟨p, q⟩ := power
  dsimp only at found outside
  generalize (interval magnitude).value * q = num at found
  generalize (interval magnitude).unit * p = den at found
  have positive : (interval magnitude).contains (num / den * p) q = true → 0 < num / den := by
    intro inside
    refine Nat.pos_of_ne_zero fun none_ => ?_
    rw [none_, Nat.zero_mul, outside] at inside
    contradiction
  split at found
  · next both =>
      rw [Bool.and_eq_true] at both
      have positive := positive both.1
      obtain rfl := Option.some.inj found
      unfold roundHalfEven
      dsimp only
      split
      · exact positive
      · split <;> omega
  · split at found
    · next lower =>
        obtain rfl := Option.some.inj found
        exact positive lower
    · split at found
      · obtain rfl := Option.some.inj found
        exact Nat.succ_pos _
      · contradiction

theorem strip_zero {d : Decimal} (zero : d.digits = 0 → d.exponent = 0) (fuel : Nat) :
    (d.strip fuel).digits = 0 → (d.strip fuel).exponent = 0 := by
  induction fuel generalizing d with
  | zero => exact zero
  | succ fuel ih =>
      rw [Decimal.strip]
      split
      · next more =>
          refine ih fun none_ => ?_
          have none_ : d.digits / 10 = 0 := none_
          omega
      · exact zero

theorem shortest_zero (magnitude : Nat) :
    (shortest magnitude).digits = 0 → (shortest magnitude).exponent = 0 := by
  unfold shortest
  split
  · exact fun _ => rfl
  · next nonzero =>
      refine strip_zero ?_ 17
      generalize List.range 17 = grids
      cases found : grids.findSome? _ with
      | none => exact fun _ => rfl
      | some d =>
          obtain ⟨k, -, onGrid⟩ := List.exists_of_findSome?_eq_some found
          obtain ⟨n, onGrid, same⟩ := Option.map_eq_some_iff.mp onGrid
          rw [← same]
          exact fun zero => absurd zero (Nat.ne_of_gt (onGrid?_pos nonzero onGrid))

end Binary64

/-! The form of what is written. -/

namespace FloatText

open Number (Numeral)

def numeral (format : FloatText) (d : Binary64.Decimal) : Numeral :=
  let ds := Nat.toDigits 10 d.digits
  let top := d.exponent + ((ds.length - 1 : Nat) : Int)
  if format.least ≤ top ∧ top ≤ format.most then
    if 0 ≤ d.exponent then { whole := ds ++ zeros d.exponent.toNat, fraction := ['0'] }
    else if 0 ≤ top then { whole := ds.take (top.toNat + 1), fraction := ds.drop (top.toNat + 1) }
    else { whole := ['0'], fraction := zeros (-top - 1).toNat ++ ds }
  else
    { whole := ds.take 1, fraction := ds.drop 1
      exponent := some (¬0 ≤ top, Nat.toDigits 10 top.natAbs) }

theorem fractionChars_of_ne_nil {cs : List Char} (nonempty : cs ≠ []) :
    Numeral.fractionChars cs = '.' :: cs := by
  cases cs with
  | nil => contradiction
  | cons c cs => rfl

theorem exponentChars_sign (top : Int) (ds : List Char) :
    Numeral.exponentChars (some (¬0 ≤ top, ds)) = 'e' :: (if 0 ≤ top then '+' else '-') :: ds := by
  unfold Numeral.exponentChars
  by_cases sign : 0 ≤ top <;> simp [sign]

theorem chars_numeral (format : FloatText) (d : Binary64.Decimal) :
    (format.numeral d).chars = format.decimal d := by
  have nonempty : Nat.toDigits 10 d.digits ≠ [] := Nat.toDigits_ne_nil
  unfold numeral decimal Numeral.chars
  dsimp only
  generalize Nat.toDigits 10 d.digits = ds at nonempty
  split
  · split
    · simp [Numeral.fractionChars, Numeral.exponentChars]
    · split
      · have longer : ds.drop ((d.exponent + ((ds.length - 1 : Nat) : Int)).toNat + 1) ≠ [] := by
          rw [Ne, List.drop_eq_nil_iff]
          omega
        simp [fractionChars_of_ne_nil longer, Numeral.exponentChars]
      · rw [fractionChars_of_ne_nil (by simp [nonempty])]
        simp [Numeral.exponentChars]
  · rw [exponentChars_sign]
    cases ds with
    | nil => contradiction
    | cons c ds => cases ds <;> simp [Numeral.fractionChars]

theorem isDigit_of_mem_zeros (member : c ∈ zeros n) : c.isDigit = true := by
  obtain rfl := List.eq_of_mem_replicate member
  rfl

theorem lawful_numeral (format : FloatText) {d : Binary64.Decimal}
    (zero : d.digits = 0 → d.exponent = 0) : (format.numeral d).Lawful := by
  have digits : ∀ c ∈ Nat.toDigits 10 d.digits, c.isDigit = true :=
    fun _ => Number.isDigit_of_mem_toDigits
  obtain ⟨c, cs, first, leading⟩ := Number.toDigits_eq_cons d.digits
  have single : d.digits = 0 → cs = [] := by
    intro none_
    rw [none_, Nat.toDigits_zero] at first
    exact (List.cons.inj first).2.symm
  unfold numeral
  rw [first] at digits ⊢
  dsimp only
  split
  · split
    · refine ⟨?_, ⟨c, cs ++ zeros d.exponent.toNat, rfl, fun same => ?_⟩, by simp, by simp⟩
      · intro c member
        rcases List.mem_append.mp member with member | member
        · exact digits c member
        · exact isDigit_of_mem_zeros member
      · rw [single (leading same), zero (leading same)]
        rfl
    · split
      · next negative _ =>
          refine ⟨fun c member => digits c (List.mem_of_mem_take member),
            ⟨c, _, List.take_succ_cons, fun same => ?_⟩,
            fun c member => digits c (List.mem_of_mem_drop member), by simp⟩
          have none_ := zero (leading same)
          omega
      · refine ⟨by simp, ⟨'0', [], rfl, fun _ => rfl⟩, ?_, by simp⟩
        intro c member
        rcases List.mem_append.mp member with member | member
        · exact isDigit_of_mem_zeros member
        · exact digits c member
  · refine ⟨fun c member => digits c (List.mem_of_mem_take member), ⟨c, [], rfl, fun _ => rfl⟩,
      fun c member => digits c (List.mem_of_mem_drop member), ?_⟩
    rintro e ⟨⟩
    exact ⟨Nat.toDigits_ne_nil, fun _ => Number.isDigit_of_mem_toDigits⟩

end FloatText

namespace Number

def isNegative : Number → Bool
  | .nat _ => false
  | .negSucc _ => true
  | .float x => x.negative

def numeral : Number → Numeral
  | .nat n => .ofNat n.toNat
  | .negSucc n => .ofNat (n.toNat + 1)
  | .float x => FloatText.json.numeral (Binary64.shortest x.magnitude)

theorem lawful_numeral : (n : Number) → n.numeral.Lawful
  | .nat n => Numeral.lawful_ofNat n.toNat
  | .negSucc n => Numeral.lawful_ofNat (n.toNat + 1)
  | .float x => FloatText.json.lawful_numeral (Binary64.shortest_zero x.magnitude)

theorem text_eq (n : Number) :
    n.text = if n.isNegative then '-' :: n.numeral.chars else n.numeral.chars := by
  cases n with
  | nat n => exact (Numeral.chars_ofNat n.toNat).symm
  | negSucc n => exact congrArg ('-' :: ·) (Numeral.chars_ofNat (n.toNat + 1)).symm
  | float x =>
      rw [text, numeral, FloatText.chars_numeral]
      rfl

/-- What a number is read as again: itself, unless it has a fraction. -/
def reread? (n : Number) : Option Number :=
  (n.numeral.lexeme n.isNegative).value?

theorem reread?_of_whole : {n : Number} → n.Whole → n.reread? = some n
  | .nat n, _ => value?_nat n
  | .negSucc _, small => value?_negSucc small

end Number

end DidMessaging
