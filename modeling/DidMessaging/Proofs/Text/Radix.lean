import DidMessaging.Proofs.Pieces
import DidMessaging.Proofs.Text.Alphabet
import DidMessaging.Text.Radix
import Mathlib.Tactic.Ring

namespace DidMessaging

/-! Bits. -/

theorem foldl_bits (bits : List Bool) (n : Nat) :
    bits.foldl (fun n b => 2 * n + b.toNat) n = n * 2 ^ bits.length + ofBits bits := by
  induction bits generalizing n with
  | nil => simp [ofBits]
  | cons b bits ih =>
      rw [ofBits, List.foldl_cons, List.foldl_cons, ih, ih (2 * 0 + b.toNat), List.length_cons]
      ring

theorem ofBits_cons (b : Bool) (bits : List Bool) :
    ofBits (b :: bits) = 2 ^ bits.length * b.toNat + ofBits bits := by
  rw [ofBits, List.foldl_cons, foldl_bits, Nat.mul_zero, Nat.zero_add, Nat.mul_comm]

theorem ofBits_lt (bits : List Bool) : ofBits bits < 2 ^ bits.length := by
  induction bits with
  | nil => decide
  | cons b bits ih =>
      rw [ofBits_cons, List.length_cons, Nat.pow_succ]
      cases b <;> simp <;> omega

theorem ofBits_bitsOf (width n : Nat) : ofBits (bitsOf width n) = n % 2 ^ width := by
  induction width with
  | zero => simp [bitsOf, ofBits, Nat.mod_one]
  | succ width ih =>
      rw [bitsOf, ofBits_cons, length_bitsOf, ih, Nat.mod_pow_succ, Nat.toNat_testBit, Nat.add_comm]

theorem bitsOf_congr {m n : Nat} (same : ∀ i < width, m.testBit i = n.testBit i) :
    bitsOf width m = bitsOf width n := by
  induction width with
  | zero => rfl
  | succ width ih =>
      rw [bitsOf, bitsOf, same width (Nat.lt_succ_self width),
        ih fun i small => same i (Nat.lt_succ_of_lt small)]

theorem bitsOf_ofBits (bits : List Bool) : bitsOf bits.length (ofBits bits) = bits := by
  induction bits with
  | nil => rfl
  | cons b bits ih =>
      have top : (ofBits (b :: bits)).testBit bits.length = b := by
        rw [ofBits_cons, Nat.testBit_two_pow_mul_add _ (ofBits_lt bits), if_neg (Nat.lt_irrefl _),
          Nat.sub_self, Nat.testBit_bool_toNat]
        simp
      have low : bitsOf bits.length (ofBits (b :: bits)) = bitsOf bits.length (ofBits bits) := by
        refine bitsOf_congr fun i small => ?_
        rw [ofBits_cons, Nat.testBit_two_pow_mul_add _ (ofBits_lt bits), if_pos small]
      rw [List.length_cons, bitsOf, top, low, ih]

namespace Radix

/-- An alphabet with one digit for each group of bits that it stands for, of octets at most. -/
structure Lawful (r : Radix) : Prop where
  positive : 0 < r.width
  atMost : r.width ≤ 8
  nodup : r.digits.Nodup
  all : r.digits.length = 2 ^ r.width

instance (r : Radix) : Decidable r.Lawful :=
  decidable_of_iff
    (0 < r.width ∧ r.width ≤ 8 ∧ r.digits.Nodup ∧ r.digits.length = 2 ^ r.width)
    ⟨fun ⟨positive, atMost, nodup, all⟩ => ⟨positive, atMost, nodup, all⟩,
      fun ⟨positive, atMost, nodup, all⟩ => ⟨positive, atMost, nodup, all⟩⟩

theorem mapM_digit?_eq_some_iff {r : Radix} (lawful : r.Lawful) {cs : List Char} {ns : List Nat} :
    cs.mapM r.digit? = some ns ↔ cs = ns.map r.digit ∧ ∀ n ∈ ns, n < 2 ^ r.width := by
  rw [← lawful.all]
  exact Alphabet.mapM_idxOf?_eq_some_iff lawful.nodup

theorem length_padBits {r : Radix} (lawful : r.Lawful) (bits : List Bool) :
    (r.padBits bits).length % r.width = 0 := by
  have positive := lawful.positive
  have remainder := Nat.mod_lt bits.length positive
  rw [padBits, List.length_append, List.length_replicate]
  by_cases whole : bits.length % r.width = 0
  · rw [whole, Nat.sub_zero, Nat.mod_self, Nat.add_zero, whole]
  · rw [Nat.mod_eq_of_lt (by omega : r.width - bits.length % r.width < r.width), Nat.add_mod,
      Nat.mod_eq_of_lt (by omega : r.width - bits.length % r.width < r.width),
      Nat.add_sub_cancel' (Nat.le_of_lt remainder), Nat.mod_self]

theorem flatMap_bitsOf_ofBits {width : Nat} {groups : List (List Bool)}
    (sized : ∀ group ∈ groups, group.length = width) :
    (groups.map ofBits).flatMap (bitsOf width) = groups.flatten := by
  induction groups with
  | nil => rfl
  | cons group groups ih =>
      have bits : bitsOf width (ofBits group) = group := by
        rw [← sized group List.mem_cons_self, bitsOf_ofBits]
      rw [List.map_cons, List.flatMap_cons, bits,
        ih fun piece member => sized piece (List.mem_cons_of_mem _ member), List.flatten_cons]

theorem length_flatMap_bitsOf (bytes : Bytes) :
    (bytes.flatMap (bitsOf 8 ·.toNat)).length = 8 * bytes.length := by
  have sized (b : UInt8) : (bitsOf 8 b.toNat).length = 8 := length_bitsOf 8 b.toNat
  exact length_flatMap_of_sized sized bytes

/-- The octets are cut off from the zero bits that complete the last digit. -/
theorem wholeChunks_padBits {r : Radix} (lawful : r.Lawful) (bytes : Bytes) :
    wholeChunks 8 (r.padBits (bytes.flatMap (bitsOf 8 ·.toNat))) =
      (bytes.map (bitsOf 8 ·.toNat),
        List.replicate ((r.width - 8 * bytes.length % r.width) % r.width) false) := by
  have fewer := Nat.mod_lt (r.width - 8 * bytes.length % r.width) lawful.positive
  have atMost := lawful.atMost
  have padded := length_flatMap_bitsOf bytes
  have count : (r.padBits (bytes.flatMap (bitsOf 8 ·.toNat))).length / 8 = bytes.length := by
    rw [padBits, List.length_append, List.length_replicate, padded]
    omega
  have sized (b : UInt8) : (bitsOf 8 b.toNat).length = 8 := length_bitsOf 8 b.toNat
  refine Prod.ext ?_ ?_
  · simp only [wholeChunks, count]
    exact pieces_flatMap sized bytes _
  · simp only [wholeChunks, count]
    rw [padBits, List.drop_left' padded, padded]

theorem map_ofBits_bitsOf (bytes : Bytes) :
    (bytes.map (bitsOf 8 ·.toNat)).map (UInt8.ofNat <| ofBits ·) = bytes := by
  rw [List.map_map]
  refine (List.map_congr_left fun b _ => ?_).trans (List.map_id bytes)
  rw [Function.comp_apply, ofBits_bitsOf, Nat.mod_eq_of_lt b.toNat_lt, UInt8.ofNat_toNat, id]

theorem flatMap_bitsOf_octets {octets : List (List Bool)}
    (sized : ∀ octet ∈ octets, octet.length = 8) :
    (octets.map (UInt8.ofNat <| ofBits ·)).flatMap (bitsOf 8 ·.toNat) = octets.flatten := by
  have each : ∀ octet ∈ octets, bitsOf 8 (UInt8.ofNat (ofBits octet)).toNat = octet := by
    intro octet member
    have small : ofBits octet < 2 ^ 8 := sized octet member ▸ ofBits_lt octet
    rw [UInt8.toNat_ofNat_of_lt' small, ← sized octet member, bitsOf_ofBits]
  rw [List.flatMap_map, List.flatMap_def, List.map_congr_left each, List.map_id']

/-- What completes a number of bits to whole digits, if it is less than a digit, is the padding. -/
theorem padding_eq {bits left width : Nat} (fewer : left < width)
    (whole : (bits + left) % width = 0) : (width - bits % width) % width = left := by
  have remainder := Nat.mod_lt bits (Nat.zero_lt_of_lt fewer)
  have sum : (bits % width + left) % width = 0 := by rwa [Nat.mod_add_mod]
  rcases Nat.lt_or_ge (bits % width + left) width with short | long
  · rw [Nat.mod_eq_of_lt short] at sum
    obtain ⟨zero, rfl⟩ := Nat.add_eq_zero_iff.mp sum
    rw [zero, Nat.sub_zero, Nat.mod_self]
  · rw [Nat.mod_eq_sub_mod long, Nat.mod_eq_of_lt (by omega)] at sum
    rw [Nat.mod_eq_of_lt (by omega)]
    omega

/-- Digits stand for octets if their bits are those of the octets and zeros that complete the last
digit. -/
theorem ofDigits?_eq_some_iff {r : Radix} (lawful : r.Lawful) {ns : List Nat} {bytes : Bytes} :
    r.ofDigits? ns = some bytes ↔
      ns.flatMap (bitsOf r.width) = r.padBits (bytes.flatMap (bitsOf 8 ·.toNat)) := by
  constructor
  · intro read
    unfold ofDigits? at read
    generalize cut : wholeChunks 8 (ns.flatMap (bitsOf r.width)) = parts at read
    obtain ⟨octets, left⟩ := parts
    have sized : ∀ octet ∈ octets, octet.length = 8 := by
      intro octet member
      have fst : (wholeChunks 8 (ns.flatMap (bitsOf r.width))).1 = octets := by rw [cut]
      exact length_of_mem_wholeChunks (fst ▸ member)
    have bits : octets.flatten ++ left = ns.flatMap (bitsOf r.width) := by
      have whole := flatten_wholeChunks 8 (ns.flatMap (bitsOf r.width))
      rwa [cut] at whole
    dsimp only at read
    split at read
    · next complete =>
        obtain ⟨fewer, zeros⟩ := complete
        obtain rfl := Option.some.inj read
        -- What is left over is the filling of the last digit: zeros, and too few for one more.
        have blank : left = List.replicate left.length false :=
          List.eq_replicate_iff.mpr ⟨rfl, by simpa using zeros⟩
        have whole : (octets.flatten.length + left.length) % r.width = 0 := by
          rw [← List.length_append, bits, length_flatMap_of_sized (length_bitsOf r.width) ns,
            Nat.mul_mod_right]
        rw [padBits, flatMap_bitsOf_octets sized, padding_eq fewer whole, ← blank, bits]
    · contradiction
  · intro same
    have fewer := Nat.mod_lt (r.width - 8 * bytes.length % r.width) lawful.positive
    rw [ofDigits?, same, wholeChunks_padBits lawful]
    simp only [List.length_replicate, List.all_replicate, map_ofBits_bitsOf]
    rw [if_pos ⟨fewer, by simp⟩]

/-- A text is read as the octets that it was written for, and no other text is read as these. -/
theorem decode?_eq_some_iff {r : Radix} (lawful : r.Lawful) {cs : List Char} {bytes : Bytes} :
    r.decode? cs = some bytes ↔ cs = r.encode bytes := by
  unfold decode? encode
  rw [Option.bind_eq_some_iff]
  simp only [mapM_digit?_eq_some_iff lawful, ofDigits?_eq_some_iff lawful]
  constructor
  · rintro ⟨ns, ⟨rfl, small⟩, same⟩
    have sized : ∀ group ∈ ns.map (bitsOf r.width), group.length = r.width := by
      intro group member
      obtain ⟨n, -, rfl⟩ := List.mem_map.mp member
      exact length_bitsOf r.width n
    have digits : ∀ n ∈ ns, r.digit n = r.digit (ofBits (bitsOf r.width n)) := by
      intro n member
      rw [ofBits_bitsOf, Nat.mod_eq_of_lt (small n member)]
    rw [← same, List.flatMap_def, chunks_flatten lawful.positive sized, List.map_map]
    exact List.map_congr_left digits
  · rintro rfl
    have sized (group)
        (member : group ∈ chunks r.width (r.padBits (bytes.flatMap (bitsOf 8 ·.toNat)))) :
        group.length = r.width :=
      length_of_mem_chunks lawful.positive (length_padBits lawful _) member
    refine ⟨(chunks r.width (r.padBits (bytes.flatMap (bitsOf 8 ·.toNat)))).map ofBits,
      ⟨by rw [List.map_map]; rfl, ?_⟩, ?_⟩
    · intro n member
      obtain ⟨group, listed, rfl⟩ := List.mem_map.mp member
      exact sized group listed ▸ ofBits_lt group
    · rw [flatMap_bitsOf_ofBits sized, flatten_chunks lawful.positive]

theorem decode?_encode {r : Radix} (lawful : r.Lawful) (bytes : Bytes) :
    r.decode? (r.encode bytes) = some bytes :=
  (decode?_eq_some_iff lawful).mpr rfl

theorem mem_digits_of_decode? {r : Radix} {cs : List Char} {bytes : Bytes}
    (decoded : r.decode? cs = some bytes) (member : c ∈ cs) : c ∈ r.digits := by
  obtain ⟨ns, digits, -⟩ := Option.bind_eq_some_iff.mp decoded
  obtain ⟨n, -, digit⟩ :=
    Result.exists_of_forall₂ (Optional.mapM_eq_some_iff.mp digits).flip member
  obtain ⟨small, same, -⟩ := List.idxOf?_eq_some_iff.mp digit
  exact same ▸ List.getElem_mem small

/-- A text has no fewer bits than what it is read as. -/
theorem length_of_decode? {r : Radix} {cs : List Char} {bytes : Bytes}
    (decoded : r.decode? cs = some bytes) : 8 * bytes.length ≤ r.width * cs.length := by
  obtain ⟨ns, digits, decoded⟩ := Option.bind_eq_some_iff.mp decoded
  have count : ns.length = cs.length := (Optional.mapM_eq_some_iff.mp digits).length_eq.symm
  have sized (n : Nat) : (bitsOf r.width n).length = r.width := length_bitsOf r.width n
  have bits := length_flatMap_of_sized sized ns
  rw [ofDigits?] at decoded
  dsimp only at decoded
  split at decoded
  · obtain rfl := Option.some.inj decoded
    rw [List.length_map, wholeChunks, length_pieces, bits, count]
    exact Nat.mul_div_le _ 8
  · contradiction

end Radix

namespace Base64Url

theorem length_of_decode? {text : String} {bytes : Bytes} (decoded : decode? text = some bytes) :
    4 * bytes.length ≤ 3 * text.toList.length := by
  have bits := Radix.length_of_decode? decoded
  have width : radix.width = 6 := rfl
  rw [width] at bits
  omega

theorem lawful : radix.Lawful := by decide +kernel

theorem decode?_encode (bytes : Bytes) : decode? (encode bytes) = some bytes := by
  rw [decode?, encode, String.toList_ofList, Radix.decode?_encode lawful]

theorem dot_notMem_encode (bytes : Bytes) : '.' ∉ (encode bytes).toList := fun member =>
  absurd (Radix.mem_digits_of_decode? (decode?_encode bytes) member) (by decide)

end Base64Url

end DidMessaging
