import DidMessaging.Json.Token
import DidMessaging.Proofs.Result
import Mathlib.Data.List.Basic
import Mathlib.Data.Option.Basic

namespace DidMessaging.Utf8

theorem toNat_octet {n : Nat} (small : n < 256) : (UInt8.ofNat n).toNat = n :=
  UInt8.toNat_ofNat_of_lt' small

theorem continuation?_ofNat {n : Nat} (small : n < 64) :
    continuation? (UInt8.ofNat (0x80 + n)) = some n := by
  rw [continuation?, toNat_octet (by omega), if_pos (by omega), Nat.add_sub_cancel_left]

theorem scalar?_toNat {c : Char} {least n : Nat} (value : n = c.toNat) (enough : least ≤ n) :
    scalar? least n = some c := by
  subst value
  rw [scalar?, if_pos ⟨enough, c.valid⟩, Char.ofNat_toNat]

theorem toNat_lt (c : Char) : c.toNat < 0x110000 := by
  have valid := c.valid
  simp only [UInt32.isValidChar, Nat.isValidChar] at valid
  have same : c.val.toNat = c.toNat := rfl
  omega

/-! A lead octet says how long the sequence is. -/

theorem two?_eq_none {a : UInt8} (long : 0xE0 ≤ a.toNat) (b : UInt8) : two? a b = none := by
  rw [two?, guard, if_neg (by omega)]
  rfl

theorem three?_eq_none {a : UInt8} (long : 0xF0 ≤ a.toNat) (b c : UInt8) : three? a b c = none := by
  rw [three?, guard, if_neg (by omega)]
  rfl

theorem two?_encoded {c : Char} (least : 0x80 ≤ c.toNat) (most : c.toNat < 0x800) :
    two? (UInt8.ofNat (0xC0 + c.toNat / 64)) (UInt8.ofNat (0x80 + c.toNat % 64)) = some c := by
  have value : (0xC0 + c.toNat / 64 - 0xC0) * 64 + c.toNat % 64 = c.toNat := by omega
  rw [two?, guard, toNat_octet (by omega), if_pos (by omega), continuation?_ofNat (by omega)]
  exact scalar?_toNat value (by omega)

theorem three?_encoded {c : Char} (least : 0x800 ≤ c.toNat) (most : c.toNat < 0x10000) :
    three? (UInt8.ofNat (0xE0 + c.toNat / 4096)) (UInt8.ofNat (0x80 + c.toNat / 64 % 64))
      (UInt8.ofNat (0x80 + c.toNat % 64)) = some c := by
  have value : (0xE0 + c.toNat / 4096 - 0xE0) * 4096 + c.toNat / 64 % 64 * 64 + c.toNat % 64 =
    c.toNat := by omega
  rw [three?, guard, toNat_octet (by omega), if_pos (by omega), continuation?_ofNat (by omega),
    continuation?_ofNat (by omega)]
  exact scalar?_toNat value (by omega)

theorem four?_encoded {c : Char} (least : 0x10000 ≤ c.toNat) :
    four? (UInt8.ofNat (0xF0 + c.toNat / 262144)) (UInt8.ofNat (0x80 + c.toNat / 4096 % 64))
      (UInt8.ofNat (0x80 + c.toNat / 64 % 64)) (UInt8.ofNat (0x80 + c.toNat % 64)) = some c := by
  have most := toNat_lt c
  have lead : (UInt8.ofNat (0xF0 + c.toNat / 262144)).toNat = 0xF0 + c.toNat / 262144 :=
    toNat_octet (by omega)
  have value : (0xF0 + c.toNat / 262144 - 0xF0) * 262144 + c.toNat / 4096 % 64 * 4096 +
      c.toNat / 64 % 64 * 64 + c.toNat % 64 = c.toNat := by omega
  -- Rewriting to the end would let the kernel compare numbers as large as `0x10000` in unary.
  refine Option.bind_eq_some_iff.mpr ⟨(), if_pos (by omega), ?_⟩
  refine Option.bind_eq_some_iff.mpr ⟨_, continuation?_ofNat (by omega), ?_⟩
  refine Option.bind_eq_some_iff.mpr ⟨_, continuation?_ofNat (by omega), ?_⟩
  refine Option.bind_eq_some_iff.mpr ⟨_, continuation?_ofNat (by omega), ?_⟩
  rw [lead, value]
  exact scalar?_toNat rfl least

/-- The octets of a character are scanned as that character. -/
theorem first?_encodeChar (c : Char) (rest : Bytes) :
    ∃ a others, encodeChar c = a :: others ∧
      first? a (others ++ rest) = some (c, others.length) := by
  by_cases one : c.toNat < 0x80
  · refine ⟨UInt8.ofNat c.toNat, [], if_pos one, ?_⟩
    rw [first?.eq_def, toNat_octet (by omega), if_pos one, Char.ofNat_toNat]
    rfl
  by_cases two : c.toNat < 0x800
  · have found := two?_encoded (by omega) two
    simp only [encodeChar, if_neg one, if_pos two]
    refine ⟨_, _, rfl, ?_⟩
    rw [first?.eq_def, toNat_octet (by omega), if_neg (by omega)]
    rcases rest with _ | ⟨b, _ | ⟨d, rest⟩⟩ <;>
      simp only [List.cons_append, List.nil_append, found] <;> rfl
  by_cases three : c.toNat < 0x10000
  · have found := three?_encoded (by omega) three
    have lead : 0xE0 ≤ (UInt8.ofNat (0xE0 + c.toNat / 4096)).toNat := by
      rw [toNat_octet (by omega)]
      omega
    simp only [encodeChar, if_neg one, if_neg two, if_pos three]
    refine ⟨_, _, rfl, ?_⟩
    rw [first?.eq_def, toNat_octet (by omega), if_neg (by omega)]
    rcases rest with _ | ⟨d, rest⟩ <;>
      simp only [List.cons_append, List.nil_append, two?_eq_none lead, found] <;> rfl
  · have most := toNat_lt c
    have found := four?_encoded (c := c) (by omega)
    have lead : 0xF0 ≤ (UInt8.ofNat (0xF0 + c.toNat / 262144)).toNat := by
      rw [toNat_octet (by omega)]
      omega
    simp only [encodeChar, if_neg one, if_neg two, if_neg three]
    refine ⟨_, _, rfl, ?_⟩
    rw [first?.eq_def, toNat_octet (by omega), if_neg (by omega)]
    simp only [List.cons_append, List.nil_append, two?_eq_none (Nat.le_trans (by decide) lead),
      three?_eq_none lead, found]
    rfl

theorem scan_flatMap (cs : List Char) : scan (cs.flatMap encodeChar) = cs.map some := by
  induction cs with
  | nil => rfl
  | cons c cs ih =>
      obtain ⟨a, others, octets, first⟩ := first?_encodeChar c (cs.flatMap encodeChar)
      rw [List.flatMap_cons, octets, List.cons_append, scan, scanFrom, first]
      simp only [scanFrom_append_of_length rfl, ih, List.map_cons]

theorem scan_encode (s : String) : scan (encode s) = Json.scanned s :=
  scan_flatMap s.toList

theorem decode?_encode (s : String) : decode? (encode s) = some s := by
  have all (cs : List Char) : (cs.map some).mapM id = some cs := by
    induction cs with
    | nil => rfl
    | cons c cs ih => rw [List.map_cons, List.mapM_cons, ih]; rfl
  rw [decode?, scan_encode, Json.scanned, all, Option.map_some, String.ofList_toList]

theorem encode_injective : Function.Injective encode := by
  intro s t same
  exact Option.some.inj ((decode?_encode s).symm.trans (same ▸ decode?_encode t))

theorem length_encode_ge (s : String) : s.toList.length ≤ (encode s).length := by
  rw [encode]
  induction s.toList with
  | nil => exact Nat.le_refl _
  | cons c cs ih =>
      obtain ⟨a, others, octets, -⟩ := first?_encodeChar c []
      rw [List.flatMap_cons, octets, List.length_append, List.length_cons, List.length_cons]
      omega

/-! How many octets a text takes. -/

/-- What is no character stands for one octet. -/
def octets (c : Option Char) : Nat :=
  c.elim 1 fun c => (encodeChar c).length

def size : List (Option Char) → Nat
  | [] => 0
  | c :: cs => octets c + size cs

@[simp] theorem size_nil : size [] = 0 := rfl

@[simp] theorem size_cons (c : Option Char) (cs : List (Option Char)) :
    size (c :: cs) = octets c + size cs := rfl

@[simp] theorem size_append (cs ds : List (Option Char)) : size (cs ++ ds) = size cs + size ds := by
  induction cs with
  | nil => simp
  | cons c cs ih => rw [List.cons_append, size_cons, ih, size_cons, Nat.add_assoc]

theorem size_scanned (s : String) : size (Json.scanned s) = (encode s).length := by
  rw [Json.scanned, encode]
  induction s.toList with
  | nil => rfl
  | cons c cs ih => rw [List.map_cons, size_cons, ih, List.flatMap_cons, List.length_append, octets,
      Option.elim_some]

theorem le_size_cons (c : Option Char) (shorter : n ≤ size cs) : n ≤ size (c :: cs) :=
  Nat.le_add_left_of_le shorter

theorem length_encodeChar_pos (c : Char) : 0 < (encodeChar c).length := by
  obtain ⟨a, others, octets, -⟩ := first?_encodeChar c []
  rw [octets]
  exact Nat.succ_pos _

theorem octets_pos (c : Option Char) : 0 < octets c := by
  cases c with
  | none => exact Nat.one_pos
  | some c => exact length_encodeChar_pos c

theorem length_encodeChar_le (c : Char) : (encodeChar c).length ≤ 4 := by
  unfold encodeChar
  dsimp only
  split_ifs <;> simp

theorem toNat_ofNat {n : Nat} (valid : n.isValidChar) : (Char.ofNat n).toNat = n := by
  rw [Char.ofNat, dif_pos valid]
  rfl

theorem toNat_of_scalar? (found : scalar? least n = some c) : c.toNat = n ∧ least ≤ n := by
  unfold scalar? at found
  split at found
  · next range =>
      obtain rfl := Option.some.inj found
      exact ⟨toNat_ofNat range.2, range.1⟩
  · contradiction

theorem toNat_of_continuation? (found : continuation? b = some n) :
    b.toNat = 0x80 + n ∧ n < 64 := by
  unfold continuation? at found
  split at found
  · obtain rfl := Option.some.inj found
    omega
  · contradiction

theorem ofNat_eq_of_toNat {b : UInt8} (same : b.toNat = n) : UInt8.ofNat n = b := by
  rw [← same, UInt8.ofNat_toNat]

/-! Each sequence of octets that is read is the one of its character: none is longer than needed. -/

theorem encodeChar_of_two? (found : two? a b = some c) : encodeChar c = [a, b] := by
  simp only [two?, Option.bind_eq_bind, Option.bind_eq_some_iff, Option.guard_eq_some'] at found
  obtain ⟨_, lead, y, continued, found⟩ := found
  obtain ⟨octet, small⟩ := toNat_of_continuation? continued
  obtain ⟨code, least⟩ := toNat_of_scalar? found
  rw [encodeChar, code, if_neg (by omega), if_pos (by omega), ofNat_eq_of_toNat (b := a) (by omega),
    ofNat_eq_of_toNat (b := b) (by omega)]

theorem encodeChar_of_three? (found : three? a b c = some d) : encodeChar d = [a, b, c] := by
  simp only [three?, Option.bind_eq_bind, Option.bind_eq_some_iff, Option.guard_eq_some'] at found
  obtain ⟨_, lead, y, continued, z, continued', found⟩ := found
  obtain ⟨octet, small⟩ := toNat_of_continuation? continued
  obtain ⟨octet', small'⟩ := toNat_of_continuation? continued'
  obtain ⟨code, least⟩ := toNat_of_scalar? found
  rw [encodeChar, code, if_neg (by omega), if_neg (by omega), if_pos (by omega),
    ofNat_eq_of_toNat (b := a) (by omega), ofNat_eq_of_toNat (b := b) (by omega),
    ofNat_eq_of_toNat (b := c) (by omega)]

theorem encodeChar_of_four? (found : four? a b c d = some e) : encodeChar e = [a, b, c, d] := by
  simp only [four?, Option.bind_eq_bind, Option.bind_eq_some_iff, Option.guard_eq_some'] at found
  obtain ⟨_, lead, y, continued, z, continued', w, continued'', found⟩ := found
  obtain ⟨octet, small⟩ := toNat_of_continuation? continued
  obtain ⟨octet', small'⟩ := toNat_of_continuation? continued'
  obtain ⟨octet'', small''⟩ := toNat_of_continuation? continued''
  obtain ⟨code, least⟩ := toNat_of_scalar? found
  rw [encodeChar, code, if_neg (by omega), if_neg (by omega), if_neg (by omega),
    ofNat_eq_of_toNat (b := a) (by omega), ofNat_eq_of_toNat (b := b) (by omega),
    ofNat_eq_of_toNat (b := c) (by omega), ofNat_eq_of_toNat (b := d) (by omega)]

/-- A character is read from its own octets. -/
theorem encodeChar_of_first? {a : UInt8} {rest : Bytes} (found : first? a rest = some (c, n)) :
    encodeChar c = a :: rest.take n ∧ n ≤ rest.length := by
  have sequence {read : Option Char} {k : Nat} (found : read.map (·, k) = some (c, n))
      (octets : ∀ d, read = some d → encodeChar d = a :: rest.take k) (enough : k ≤ rest.length) :
      encodeChar c = a :: rest.take n ∧ n ≤ rest.length := by
    obtain ⟨d, isRead, same⟩ := Option.map_eq_some_iff.mp found
    obtain ⟨rfl, rfl⟩ := Prod.mk.inj same
    exact ⟨octets d isRead, enough⟩
  unfold first? at found
  split at found
  · next ascii =>
      cases Option.some.inj found
      have code : (Char.ofNat a.toNat).toNat = a.toNat := toNat_ofNat (.inl (by omega))
      rw [encodeChar, code, if_pos ascii, UInt8.ofNat_toNat]
      exact ⟨rfl, Nat.zero_le _⟩
  · split at found
    · rcases Option.or_eq_some_iff.mp found with found | ⟨-, found⟩
      · exact sequence found (fun _ => encodeChar_of_two?) (by simp)
      · rcases Option.or_eq_some_iff.mp found with found | ⟨-, found⟩
        · exact sequence found (fun _ => encodeChar_of_three?) (by simp)
        · exact sequence found (fun _ => encodeChar_of_four?) (by simp)
    · rcases Option.or_eq_some_iff.mp found with found | ⟨-, found⟩
      · exact sequence found (fun _ => encodeChar_of_two?) (by simp)
      · exact sequence found (fun _ => encodeChar_of_three?) (by simp)
    · exact sequence found (fun _ => encodeChar_of_two?) (by simp)
    · contradiction

theorem length_of_first? {a : UInt8} {rest : Bytes} (found : first? a rest = some (c, n)) :
    (encodeChar c).length ≤ n + 1 ∧ n ≤ rest.length := by
  obtain ⟨octets, enough⟩ := encodeChar_of_first? found
  refine ⟨?_, enough⟩
  rw [octets, List.length_cons]
  exact Nat.succ_le_succ (List.length_take_le _ _)

theorem size_scanFrom_le (skip : Nat) (bytes : Bytes) :
    size (scanFrom skip bytes) ≤ bytes.length - skip := by
  induction bytes generalizing skip with
  | nil => cases skip <;> simp [scanFrom]
  | cons a rest ih =>
      cases skip with
      | succ skip =>
          have inner := ih skip
          rw [scanFrom, List.length_cons]
          omega
      | zero =>
          rw [scanFrom]
          split
          · next c skip found =>
              have inner := ih skip
              have bounds := length_of_first? found
              simp only [size_cons, octets, Option.elim_some, List.length_cons]
              omega
          · have inner := ih 0
            simp only [size_cons, octets, Option.elim_none, List.length_cons]
            omega

theorem size_scan_le (bytes : Bytes) : size (scan bytes) ≤ bytes.length :=
  size_scanFrom_le 0 bytes

theorem eq_map_some_of_mapM {cs : List (Option Char)} {ds : List Char}
    (all : cs.mapM id = some ds) : cs = ds.map some := by
  have each := Optional.mapM_eq_some_iff.mp all
  have same := Result.map_eq_map_of_forall₂ (f := id) (g := some) (each.imp fun _ _ => Eq.symm)
  rw [same, List.map_id]

/-- Octets that are scanned without a fault are those of the characters. -/
theorem drop_eq_flatMap_of_scanFrom {skip : Nat} {bytes : Bytes} {cs : List Char}
    (scanned : scanFrom skip bytes = cs.map some) : bytes.drop skip = cs.flatMap encodeChar := by
  induction bytes generalizing skip cs with
  | nil =>
      obtain rfl : cs = [] := by simpa [scanFrom] using scanned.symm
      exact List.drop_nil
  | cons a rest ih =>
      cases skip with
      | succ skip => exact ih scanned
      | zero =>
          rw [scanFrom] at scanned
          split at scanned
          · next c skip found =>
              cases cs with
              | nil => contradiction
              | cons d ds =>
                  obtain ⟨first, others⟩ := List.cons.inj scanned
                  rw [← Option.some.inj first, List.flatMap_cons, (encodeChar_of_first? found).1,
                    ← ih others, List.cons_append, List.take_append_drop, List.drop_zero]
          · cases cs with
            | nil => contradiction
            | cons d ds => simp at scanned

/-- Octets that decode are those of the text, and of no other. -/
theorem decode?_eq_some_iff {bytes : Bytes} {text : String} :
    decode? bytes = some text ↔ bytes = encode text := by
  constructor
  · intro decoded
    obtain ⟨cs, all, rfl⟩ := Option.map_eq_some_iff.mp decoded
    rw [encode, String.toList_ofList]
    exact drop_eq_flatMap_of_scanFrom (eq_map_some_of_mapM all)
  · rintro rfl
    exact decode?_encode text

end DidMessaging.Utf8
