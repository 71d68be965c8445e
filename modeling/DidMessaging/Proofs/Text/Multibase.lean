import DidMessaging.Proofs.Text.Positional
import DidMessaging.Proofs.Text.Radix
import DidMessaging.Text.Multibase

namespace DidMessaging

namespace Radix

/-- One group of digits, with `=` in place of those that the octets do not need. -/
def padGroup (r : Radix) (octets : Bytes) : List Char :=
  r.encode octets ++ List.replicate (r.group - (r.encode octets).length) '='

/-- Octets that are written with at least one digit and at most those of a group. -/
structure FillsGroup (r : Radix) (octets : Bytes) : Prop where
  some : octets ≠ []
  fits : (r.encode octets).length ≤ r.group

/-- A text of the octets in groups, each of them filled up with `=`. -/
def Padded (r : Radix) (cs : List Char) (bytes : Bytes) : Prop :=
  ∃ groups : List Bytes, (∀ octets ∈ groups, r.FillsGroup octets) ∧
    cs = groups.flatMap r.padGroup ∧ bytes = groups.flatten

variable {r : Radix}

theorem group_positive (lawful : r.Lawful) : 0 < r.group :=
  Nat.div_pos (Nat.le_of_dvd (by decide) (Nat.gcd_dvd_left 8 r.width))
    (Nat.gcd_pos_of_pos_right 8 lawful.positive)

theorem encode_eq_nil_iff (lawful : r.Lawful) {octets : Bytes} :
    r.encode octets = [] ↔ octets = [] := by
  have empty : r.decode? [] = some [] := by
    simp [decode?, ofDigits?, wholeChunks, lawful.positive]
  rw [eq_comm, ← decode?_eq_some_iff lawful, empty, Option.some_inj, eq_comm]

theorem notMem_encode (lawful : r.Lawful) (without : c ∉ r.digits) (octets : Bytes) :
    c ∉ r.encode octets := fun member =>
  without (mem_digits_of_decode? (decode?_encode lawful octets) member)

theorem length_padGroup {octets : Bytes} (fills : r.FillsGroup octets) :
    (r.padGroup octets).length = r.group := by
  rw [padGroup, List.length_append, List.length_replicate, Nat.add_sub_cancel' fills.fits]

theorem dropWhile_eq_iff {c : Char} {cs ds : List Char} (without : c ∉ ds) :
    cs.dropWhile (· == c) = ds ↔
      ds.length ≤ cs.length ∧ cs = List.replicate (cs.length - ds.length) c ++ ds := by
  constructor
  · rintro rfl
    have whole : cs.takeWhile (· == c) ++ cs.dropWhile (· == c) = cs :=
      List.takeWhile_append_dropWhile
    have marks : cs.takeWhile (· == c) = List.replicate (cs.takeWhile (· == c)).length c :=
      List.eq_replicate_iff.mpr ⟨rfl, fun d member => by simpa using List.mem_takeWhile_imp member⟩
    have count : cs.length - (cs.dropWhile (· == c)).length = (cs.takeWhile (· == c)).length := by
      have sum := congrArg List.length whole
      rw [List.length_append] at sum
      omega
    exact ⟨List.length_dropWhile_le _ cs, by rw [count, ← marks, whole]⟩
  · rintro ⟨-, same⟩
    have marks : ∀ d ∈ List.replicate (cs.length - ds.length) c, (d == c) = true := by
      intro d member
      simp [List.eq_of_mem_replicate member]
    rw [same, List.dropWhile_append_of_pos marks]
    refine List.dropWhile_eq_self_iff.mpr fun some_ mark => ?_
    exact without (beq_iff_eq.mp mark ▸ List.getElem_mem some_)

theorem decodeGroup?_eq_some_iff (lawful : r.Lawful) (without : '=' ∉ r.digits) {cs : List Char}
    (sized : cs.length = r.group) {octets : Bytes} :
    r.decodeGroup? cs = some octets ↔ r.FillsGroup octets ∧ cs = r.padGroup octets := by
  have read : r.decodeGroup? cs = some octets ↔
      octets ≠ [] ∧ cs.reverse.dropWhile (· == '=') = (r.encode octets).reverse := by
    unfold decodeGroup?
    split
    · next none_ =>
        rw [none_, eq_comm (a := []), List.reverse_eq_nil_iff, encode_eq_nil_iff lawful]
        simp
    · next last before some_ =>
        rw [decode?_eq_some_iff lawful, some_, List.reverse_eq_iff, iff_and_self]
        rintro same rfl
        rw [(encode_eq_nil_iff lawful).mpr rfl] at same
        contradiction
  have unread : '=' ∉ (r.encode octets).reverse := by
    simpa using notMem_encode lawful without octets
  rw [read, dropWhile_eq_iff unread, List.length_reverse, List.length_reverse, sized,
    List.reverse_eq_iff, List.reverse_append, List.reverse_reverse, List.reverse_replicate]
  exact ⟨fun ⟨some_, fits, same⟩ => ⟨⟨some_, fits⟩, same⟩,
    fun ⟨⟨some_, fits⟩, same⟩ => ⟨some_, fits, same⟩⟩

theorem mapM_decodeGroup?_eq_some_iff (lawful : r.Lawful) (without : '=' ∉ r.digits)
    {pieces : List (List Char)} (sized : ∀ piece ∈ pieces, piece.length = r.group)
    {groups : List Bytes} :
    pieces.mapM r.decodeGroup? = some groups ↔
      (∀ octets ∈ groups, r.FillsGroup octets) ∧ pieces = groups.map r.padGroup := by
  rw [Optional.mapM_eq_some_iff]
  induction pieces generalizing groups with
  | nil =>
      rw [List.forall₂_nil_left_iff, eq_comm (a := []), List.map_eq_nil_iff, iff_and_self]
      rintro rfl
      simp
  | cons piece pieces ih =>
      have first := sized piece List.mem_cons_self
      have rest := @ih fun piece' member => sized piece' (List.mem_cons_of_mem _ member)
      cases groups with
      | nil => simp
      | cons octets groups =>
          rw [List.forall₂_cons, decodeGroup?_eq_some_iff lawful without first, rest,
            List.forall_mem_cons, List.map_cons, List.cons.injEq, and_and_and_comm]

theorem decodePadded?_eq_some_iff (lawful : r.Lawful) (without : '=' ∉ r.digits) {cs : List Char}
    {bytes : Bytes} : r.decodePadded? cs = some bytes ↔ r.Padded cs bytes := by
  have positive := group_positive lawful
  unfold decodePadded? Padded
  constructor
  · intro read
    split at read
    · next whole =>
        obtain ⟨groups, mapped, rfl⟩ := Option.map_eq_some_iff.mp read
        obtain ⟨fills, pieces⟩ := (mapM_decodeGroup?_eq_some_iff lawful without fun piece =>
          length_of_mem_chunks positive whole).mp mapped
        refine ⟨groups, fills, ?_, rfl⟩
        rw [List.flatMap_def, ← pieces, flatten_chunks positive]
    · contradiction
  · rintro ⟨groups, fills, rfl, rfl⟩
    have sized : ∀ piece ∈ groups.map r.padGroup, piece.length = r.group := by
      intro piece member
      obtain ⟨octets, listed, rfl⟩ := List.mem_map.mp member
      exact length_padGroup (fills octets listed)
    have mapped := (mapM_decodeGroup?_eq_some_iff lawful without sized).mpr ⟨fills, rfl⟩
    rw [List.flatMap_def, length_flatten_of_sized sized, Nat.mul_mod_right, if_pos rfl,
      chunks_flatten positive sized, mapped, Option.map_some]

end Radix

namespace Multibase

/-- How octets are written in a base. -/
def Writes : Multibase → List Char → Bytes → Prop
  | .identity, cs, bytes => bytes = cs.flatMap Utf8.encodeChar
  | .plain radix, cs, bytes => cs = radix.encode bytes
  | .padded radix, cs, bytes => radix.Padded cs bytes
  | .positional alphabet, cs, bytes => cs = Positional.encode alphabet bytes

def Lawful : Multibase → Prop
  | .identity => True
  | .plain radix => radix.Lawful
  | .padded radix => radix.Lawful ∧ '=' ∉ radix.digits
  | .positional alphabet => Positional.Lawful alphabet

instance : (base : Multibase) → Decidable base.Lawful
  | .identity => inferInstanceAs (Decidable True)
  | .plain radix => inferInstanceAs (Decidable radix.Lawful)
  | .padded radix => inferInstanceAs (Decidable (radix.Lawful ∧ '=' ∉ radix.digits))
  | .positional alphabet => inferInstanceAs (Decidable (Positional.Lawful alphabet))

theorem decodeDigits?_eq_some_iff {base : Multibase} (lawful : base.Lawful) {cs : List Char}
    {bytes : Bytes} : base.decodeDigits? cs = some bytes ↔ base.Writes cs bytes := by
  cases base with
  | identity => rw [decodeDigits?, Writes, Option.some_inj, eq_comm]
  | plain radix => exact Radix.decode?_eq_some_iff lawful
  | padded radix => exact Radix.decodePadded?_eq_some_iff lawful.1 lawful.2
  | positional alphabet => exact Positional.decode?_eq_some_iff lawful

theorem lawful_of_named? {base : Multibase} (named : named? c = some base) : base.Lawful := by
  unfold named? at named
  split at named <;> cases named <;> decide +kernel

/-- Text is read in the base that its first character names, as the octets that the rest is written
for. -/
theorem decode?_eq_some_iff {text : String} {bytes : Bytes} :
    decode? text = some bytes ↔
      ∃ c cs base, text.toList = c :: cs ∧ named? c = some base ∧ base.Writes cs bytes := by
  unfold decode?
  split
  · next none_ => simp [none_]
  · next c cs some_ =>
      rw [some_, Option.bind_eq_some_iff]
      constructor
      · rintro ⟨base, named, read⟩
        have written := (decodeDigits?_eq_some_iff (lawful_of_named? named)).mp read
        exact ⟨c, cs, base, rfl, named, written⟩
      · rintro ⟨c', cs', base, same, named, written⟩
        obtain ⟨rfl, rfl⟩ := List.cons_eq_cons.mp same
        exact ⟨base, named, (decodeDigits?_eq_some_iff (lawful_of_named? named)).mpr written⟩

/-- A group that is filled up need not be the last one. -/
example : decode? "MaGk=aGk=" = some [0x68, 0x69, 0x68, 0x69] := by decide +kernel

end Multibase

end DidMessaging
