import DidMessaging.Proofs.Text.Alphabet
import DidMessaging.Text.Positional
import Mathlib.Data.List.TakeWhile
import Mathlib.Data.Nat.Digits.Lemmas

namespace DidMessaging.Positional

/-! Digits of a number. -/

/-- With fuel for all of its bits, a number is taken apart into its digits. -/
theorem digitsLE_eq (large : 1 < base) (enough : n < 2 ^ fuel) :
    digitsLE base fuel n = Nat.digits base n := by
  induction fuel generalizing n with
  | zero =>
      obtain rfl : n = 0 := by omega
      rw [digitsLE, Nat.digits_zero]
  | succ fuel ih =>
      unfold digitsLE
      split
      · next zero => rw [zero, Nat.digits_zero]
      · next some_ =>
          have shorter : n / base < 2 ^ fuel := by
            rw [Nat.div_lt_iff_lt_mul (by omega)]
            calc n < 2 ^ fuel * 2 := by rwa [← Nat.pow_succ]
              _ ≤ 2 ^ fuel * base := Nat.mul_le_mul_left _ large
          rw [ih shorter, Nat.digits_def' large (Nat.pos_of_ne_zero some_)]

theorem digits_eq (large : 1 < base) (n : Nat) : digits base n = (Nat.digits base n).reverse := by
  rw [digits, digitsLE_eq large Nat.lt_log2_self]

theorem ofDigits_eq (base : Nat) (ds : List Nat) :
    ofDigits base ds = Nat.ofDigits base ds.reverse := by
  rw [ofDigits, Nat.ofDigits_eq_foldr, List.foldr_reverse]
  simp only [Nat.cast_id, Nat.mul_comm, Nat.add_comm]

theorem lt_of_mem_digits (large : 1 < base) (member : d ∈ digits base n) : d < base := by
  rw [digits_eq large, List.mem_reverse] at member
  exact Nat.digits_lt_base large member

theorem ofDigits_digits (large : 1 < base) (n : Nat) : ofDigits base (digits base n) = n := by
  rw [digits_eq large, ofDigits_eq, List.reverse_reverse, Nat.ofDigits_digits]

theorem takeWhile_digits (large : 1 < base) (n : Nat) :
    (digits base n).takeWhile (· == 0) = [] := by
  rw [List.takeWhile_eq_nil_iff]
  intro some_
  have positive : n ≠ 0 := by
    rintro rfl
    simp [digits_eq large] at some_
  have first := Nat.getLast_digit_ne_zero base positive
  simpa [digits_eq large, List.getLast_eq_getElem] using first

/-- Leading zeros do not count. -/
theorem digits_ofDigits (large : 1 < base) {ds : List Nat} (small : ∀ d ∈ ds, d < base) :
    digits base (ofDigits base ds) = ds.dropWhile (· == 0) := by
  induction ds with
  | nil => rw [digits_eq large, ofDigits, List.foldl_nil, Nat.digits_zero]; rfl
  | cons d ds ih =>
      -- A zero in front changes neither the number nor what is left of the digits.
      rcases Nat.eq_zero_or_pos d with rfl | positive
      · have later := ih fun d' member => small d' (List.mem_cons_of_mem _ member)
        simpa [ofDigits] using later
      · have last (some_ : (d :: ds).reverse ≠ []) : (d :: ds).reverse.getLast some_ ≠ 0 := by
          simpa using Nat.pos_iff_ne_zero.mp positive
        have valid : ∀ d' ∈ (d :: ds).reverse, d' < base := fun d' member =>
          small d' (List.mem_reverse.mp member)
        rw [digits_eq large, ofDigits_eq, Nat.digits_ofDigits base large _ valid last,
          List.reverse_reverse, List.dropWhile_cons_of_neg (by simp; omega)]

/-! Carrying to another base. -/

theorem ofDigits_zeros_append (base : Nat) (ds rest : List Nat) :
    ofDigits base (ds.takeWhile (· == 0) ++ rest) = ofDigits base rest := by
  induction ds with
  | nil => rfl
  | cons d ds ih =>
      rcases Nat.eq_zero_or_pos d with rfl | positive
      · simpa [ofDigits] using ih
      · rw [List.takeWhile_cons_of_neg (by simp; omega), List.nil_append]

theorem ofDigits_convert (large : 1 < target) (source : Nat) (ds : List Nat) :
    ofDigits target (convert source target ds) = ofDigits source ds := by
  rw [convert, ofDigits_zeros_append, ofDigits_digits large]

theorem takeWhile_convert (large : 1 < target) (source : Nat) (ds : List Nat) :
    (convert source target ds).takeWhile (· == 0) = ds.takeWhile (· == 0) := by
  rw [convert, List.takeWhile_append_of_pos fun d => List.mem_takeWhile_imp,
    takeWhile_digits large, List.append_nil]

theorem lt_of_mem_convert (large : 1 < target) (member : d ∈ convert source target ds) :
    d < target := by
  rcases List.mem_append.mp member with zero | digit
  · have zero : d = 0 := by simpa using List.mem_takeWhile_imp zero
    omega
  · exact lt_of_mem_digits large digit

theorem convert_convert (fromLarge : 1 < source) (toLarge : 1 < target) {ds : List Nat}
    (small : ∀ d ∈ ds, d < source) : convert target source (convert source target ds) = ds := by
  rw [convert, takeWhile_convert toLarge, ofDigits_convert toLarge, digits_ofDigits fromLarge small,
    List.takeWhile_append_dropWhile]

/-! Text. -/

/-- An alphabet that has digits for every number, each of its own. -/
structure Lawful (alphabet : List Char) : Prop where
  large : 1 < alphabet.length
  nodup : alphabet.Nodup

instance (alphabet : List Char) : Decidable (Lawful alphabet) :=
  decidable_of_iff (1 < alphabet.length ∧ alphabet.Nodup)
    ⟨fun ⟨large, nodup⟩ => ⟨large, nodup⟩, fun ⟨large, nodup⟩ => ⟨large, nodup⟩⟩

theorem map_ofNat_toNat (bytes : Bytes) : (bytes.map UInt8.toNat).map UInt8.ofNat = bytes := by
  simp [Function.comp_def]

theorem map_toNat_ofNat {ds : List Nat} (small : ∀ d ∈ ds, d < 256) :
    (ds.map UInt8.ofNat).map UInt8.toNat = ds := by
  rw [List.map_map]
  refine (List.map_congr_left fun d member => ?_).trans (List.map_id ds)
  rw [Function.comp_apply, UInt8.toNat_ofNat_of_lt' (small d member), id]

/-- A text is read as the octets that it was written for, and no other text is read as these. -/
theorem decode?_eq_some_iff (lawful : Lawful alphabet) {cs : List Char} {bytes : Bytes} :
    decode? alphabet cs = some bytes ↔ cs = encode alphabet bytes := by
  have octets : 1 < 256 := by decide
  unfold decode? encode
  rw [Option.map_eq_some_iff]
  simp only [Alphabet.mapM_idxOf?_eq_some_iff lawful.nodup]
  constructor
  · rintro ⟨ds, ⟨rfl, small⟩, rfl⟩
    rw [map_toNat_ofNat fun d member => lt_of_mem_convert octets member,
      convert_convert lawful.large octets small]
  · rintro rfl
    have small : ∀ d ∈ bytes.map UInt8.toNat, d < 256 := by
      intro d member
      obtain ⟨b, -, rfl⟩ := List.mem_map.mp member
      exact b.toNat_lt
    refine ⟨_, ⟨rfl, fun d member => lt_of_mem_convert lawful.large member⟩, ?_⟩
    rw [convert_convert octets lawful.large small, map_ofNat_toNat]

end DidMessaging.Positional

namespace DidMessaging.Base58

theorem lawful : Positional.Lawful alphabet := by decide +kernel

/-- Text for no more octets than the limit is read as these, and no other text is read at all. -/
theorem decode?_eq_some_iff {text : String} {bytes : Bytes} :
    decode? text = some bytes ↔ text = encode bytes ∧ bytes.length ≤ limit := by
  rw [decode?, encode, Option.filter_eq_some_iff, Positional.decode?_eq_some_iff lawful,
    ← String.toList_inj, String.toList_ofList, decide_eq_true_eq]

end DidMessaging.Base58
