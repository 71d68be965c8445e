import DidMessaging.Proofs.Json.Lexing
import DidMessaging.Proofs.Json.Record
import DidMessaging.Proofs.Text.Utf8

namespace DidMessaging.Json

/-! What the strings of a value weigh. -/

def stringWeight (s : String) : Nat := (Utf8.encode s).length

/-- A string that is no text weighs nothing. -/
def legibleWeight (s : Option String) : Nat := s.elim 0 stringWeight

def Token.weight : Token → Nat
  | .string s => legibleWeight s
  | _ => 0

def tokensWeight : List Token → Nat
  | [] => 0
  | t :: ts => t.weight + tokensWeight ts

mutual

def weight : Json → Nat
  | .string s => stringWeight s
  | .array items => itemsWeight items
  | .object members => membersWeight members
  | _ => 0

def itemsWeight : List Json → Nat
  | [] => 0
  | j :: rest => j.weight + itemsWeight rest

def membersWeight : List (String × Json) → Nat
  | [] => 0
  | (name, j) :: rest => stringWeight name + j.weight + membersWeight rest

end

namespace Tree

mutual

def weight : Tree → Nat
  | .string s => stringWeight s
  | .array items => itemsWeight items
  | .object members => membersWeight members
  | _ => 0

def itemsWeight : List Tree → Nat
  | [] => 0
  | t :: rest => t.weight + itemsWeight rest

def membersWeight : List (Option String × Tree) → Nat
  | [] => 0
  | (name, t) :: rest => legibleWeight name + t.weight + membersWeight rest

end

end Tree

@[simp] theorem tokensWeight_nil : tokensWeight [] = 0 := rfl

@[simp] theorem tokensWeight_cons (t : Token) (ts : List Token) :
    tokensWeight (t :: ts) = t.weight + tokensWeight ts := rfl

@[simp] theorem tokensWeight_append (ts us : List Token) :
    tokensWeight (ts ++ us) = tokensWeight ts + tokensWeight us := by
  induction ts with
  | nil => simp
  | cons t ts ih => rw [List.cons_append, tokensWeight_cons, ih, tokensWeight_cons, Nat.add_assoc]

namespace Token

open Utf8 (size octets size_cons le_size_cons octets_pos)

/-! The lexemes weigh no more than the text that they are read from. -/

theorem size_digits_le (cs : Scanned) : size (digits cs).2 ≤ size cs := by
  induction cs with
  | nil => exact Nat.le_refl _
  | cons c cs ih =>
      cases c with
      | none => exact Nat.le_refl _
      | some c =>
          unfold digits
          split
          · exact le_size_cons _ ih
          · exact Nat.le_refl _

theorem size_of_digits (read : digits cs = (ds, after)) : size after ≤ size cs := by
  have shorter := size_digits_le cs
  rwa [read] at shorter

theorem size_of_whole? (read : whole? cs = some (ds, after)) : size after ≤ size cs := by
  unfold whole? at read
  split at read
  · obtain ⟨-, rfl⟩ := Prod.mk.inj (Option.some.inj read)
    exact le_size_cons _ (Nat.le_refl _)
  · split at read
    · contradiction
    · exact size_of_digits (Option.some.inj read)

theorem size_of_fraction? (read : fraction? cs = some (ds, after)) : size after ≤ size cs := by
  unfold fraction? at read
  split at read
  · split at read
    · contradiction
    · exact le_size_cons _ (size_of_digits (Option.some.inj read))
  · obtain ⟨-, rfl⟩ := Prod.mk.inj (Option.some.inj read)
    exact Nat.le_refl _

theorem size_of_exponentDigits? (read : exponentDigits? negative cs = some (e, after)) :
    size after ≤ size cs := by
  unfold exponentDigits? at read
  split at read
  · contradiction
  · next found =>
      obtain ⟨-, rfl⟩ := Prod.mk.inj (Option.some.inj read)
      exact size_of_digits found

theorem size_of_exponentSign? (read : exponentSign? cs = some (e, after)) :
    size after ≤ size cs := by
  unfold exponentSign? at read
  split at read
  · exact le_size_cons _ (size_of_exponentDigits? read)
  · exact le_size_cons _ (size_of_exponentDigits? read)
  · exact size_of_exponentDigits? read

theorem size_of_exponent? (read : exponent? cs = some (e, after)) : size after ≤ size cs := by
  unfold exponent? at read
  split at read
  · exact le_size_cons _ (size_of_exponentSign? read)
  · exact le_size_cons _ (size_of_exponentSign? read)
  · obtain ⟨-, rfl⟩ := Prod.mk.inj (Option.some.inj read)
    exact Nat.le_refl _

theorem size_of_magnitude? (read : magnitude? negative cs = some (l, after)) :
    size after ≤ size cs := by
  simp only [magnitude?, Option.bind_eq_bind, Option.bind_eq_some_iff, Option.pure_def,
    Option.some.injEq, Prod.mk.injEq] at read
  obtain ⟨⟨whole, rest₁⟩, wholeRead, ⟨fraction, rest₂⟩, fractionRead, ⟨exponent, rest₃⟩,
    exponentRead, -, rfl⟩ := read
  calc size rest₃ ≤ size rest₂ := size_of_exponent? exponentRead
    _ ≤ size rest₁ := size_of_fraction? fractionRead
    _ ≤ size cs := size_of_whole? wholeRead

theorem size_of_number? (read : number? cs = some (l, after)) : size after ≤ size cs := by
  unfold number? at read
  split at read
  · exact le_size_cons _ (size_of_magnitude? read)
  · exact size_of_magnitude? read

theorem size_of_word? (read : word? c cs = some (t, after)) :
    t.weight = 0 ∧ size after ≤ size cs := by
  unfold word? at read
  split at read
  case h_4 => contradiction
  all_goals
    obtain ⟨rfl, rfl⟩ := Prod.mk.inj (Option.some.inj read)
    simp only [size_cons]
    exact ⟨rfl, by omega⟩

/-! A string: every piece is written with at least the octets of its character. -/

/-- No character takes more than four octets, and a number of 16 bits is written with six. -/
def Piece.weight : Piece → Nat
  | .scalar c => octets c
  | .unit _ => 4

def piecesWeight : List Piece → Nat
  | [] => 0
  | p :: ps => p.weight + piecesWeight ps

@[simp] theorem piecesWeight_cons (p : Piece) (ps : List Piece) :
    piecesWeight (p :: ps) = p.weight + piecesWeight ps := rfl

theorem piecesWeight_append (ps qs : List Piece) :
    piecesWeight (ps ++ qs) = piecesWeight ps + piecesWeight qs := by
  induction ps with
  | nil => simp [piecesWeight]
  | cons p ps ih => rw [List.cons_append, piecesWeight_cons, ih, piecesWeight_cons, Nat.add_assoc]

theorem piecesWeight_reverse (ps : List Piece) : piecesWeight ps.reverse = piecesWeight ps := by
  induction ps with
  | nil => rfl
  | cons p ps ih =>
      rw [List.reverse_cons, piecesWeight_append, ih, piecesWeight_cons, piecesWeight, piecesWeight]
      omega

theorem octets_of_escape? (escaped : escape? e = some c) : octets (some c) = 1 := by
  unfold escape? at escaped
  split at escaped <;> cases escaped <;> rfl

theorem weight_of_pieces? (read : pieces? done cs = some (ps, after)) :
    piecesWeight ps + size after ≤ piecesWeight done + size cs := by
  fun_induction pieces? done cs with
  | case1 done => contradiction
  | case2 done rest =>
      obtain ⟨rfl, rfl⟩ := Prod.mk.inj (Option.some.inj read)
      rw [piecesWeight_reverse, size_cons]
      omega
  | case3 done a b c d rest ih =>
      obtain ⟨n, -, read⟩ := Option.bind_eq_some_iff.mp read
      have inner := ih n read
      have := octets_pos a
      have := octets_pos b
      have := octets_pos c
      have := octets_pos d
      have := octets_pos (some '\\')
      have := octets_pos (some 'u')
      simp only [piecesWeight_cons, Piece.weight, size_cons] at inner ⊢
      omega
  | case4 done e rest notUnit ih =>
      obtain ⟨c, escaped, read⟩ := Option.bind_eq_some_iff.mp read
      have inner := ih c read
      have one := octets_of_escape? escaped
      have := octets_pos e
      have := octets_pos (some '\\')
      simp only [piecesWeight_cons, Piece.weight, size_cons] at inner ⊢
      omega
  | case5 => contradiction
  | case6 done c rest notQuote notUnit notEscape visible ih =>
      have inner := ih read
      simp only [piecesWeight_cons, Piece.weight, size_cons] at inner ⊢
      omega
  | case7 done rest ih =>
      have inner := ih read
      simp only [piecesWeight_cons, Piece.weight, size_cons] at inner ⊢
      omega

theorem weight_of_joined? {ps : List Piece} {cs : List Char} (joined : joined? ps = some cs) :
    size (cs.map some) ≤ piecesWeight ps := by
  have most (n : Nat) : octets (some (Char.ofNat n)) ≤ 4 := Utf8.length_encodeChar_le _
  fun_induction joined? ps generalizing cs with
  | case1 =>
      obtain rfl := Option.some.inj joined
      exact Nat.le_refl _
  | case2 c ps ih =>
      obtain ⟨c, rfl, joined⟩ := Option.bind_eq_some_iff.mp joined
      obtain ⟨cs, rest, rfl⟩ := Option.map_eq_some_iff.mp joined
      have inner := ih rest
      simp only [List.map_cons, size_cons, piecesWeight_cons, Piece.weight]
      omega
  | case3 h l ps _ ih =>
      obtain ⟨cs, rest, rfl⟩ := Option.map_eq_some_iff.mp joined
      have inner := ih rest
      have := most h
      simp only [List.map_cons, size_cons, piecesWeight_cons, Piece.weight] at inner ⊢
      omega
  | case4 h l ps _ _ ih =>
      obtain ⟨cs, rest, rfl⟩ := Option.map_eq_some_iff.mp joined
      have inner := ih rest
      have := most (0x10000 + (h - 0xD800) * 1024 + (l - 0xDC00))
      simp only [List.map_cons, size_cons, piecesWeight_cons, Piece.weight]
      omega
  | case5 => contradiction
  | case6 h ps _ _ ih =>
      obtain ⟨cs, rest, rfl⟩ := Option.map_eq_some_iff.mp joined
      have inner := ih rest
      have := most h
      simp only [List.map_cons, size_cons, piecesWeight_cons, Piece.weight]
      omega
  | case7 => contradiction

theorem weight_of_string? (read : string? cs = some (s, after)) :
    (Token.string s).weight + size after ≤ size cs := by
  obtain ⟨⟨ps, rest⟩, pieces, same⟩ := Option.map_eq_some_iff.mp read
  obtain ⟨rfl, rfl⟩ := Prod.mk.inj same
  have pieces : piecesWeight ps + size rest ≤ size cs := by
    simpa [piecesWeight] using weight_of_pieces? pieces
  cases joined : joined? ps with
  | none =>
      rw [Option.map_none, weight, legibleWeight, Option.elim_none]
      omega
  | some text =>
      have shorter := weight_of_joined? joined
      have same : stringWeight (String.ofList text) = size (text.map some) := by
        rw [stringWeight, ← Utf8.size_scanned, scanned, String.toList_ofList]
      rw [Option.map_some, weight, legibleWeight, Option.elim_some, same]
      omega

theorem weight_of_next? (read : next? c rest = some (t, after)) :
    t.weight + size after ≤ octets (some c) + size rest := by
  unfold next? at read
  split at read
  all_goals try (obtain ⟨rfl, rfl⟩ := Prod.mk.inj (Option.some.inj read); simp [weight])
  · obtain ⟨⟨s, after⟩, string, same⟩ := Option.map_eq_some_iff.mp read
    obtain ⟨rfl, rfl⟩ := Prod.mk.inj same
    exact Nat.le_add_left_of_le (weight_of_string? string)
  · split at read
    · obtain ⟨⟨l, after⟩, number, same⟩ := Option.map_eq_some_iff.mp read
      obtain ⟨rfl, rfl⟩ := Prod.mk.inj same
      have shorter := size_of_number? number
      rw [size_cons] at shorter
      simpa [weight] using shorter
    · obtain ⟨noWeight, shorter⟩ := size_of_word? read
      omega

theorem all?_nil (fuel : Nat) : all? fuel [] = some [] := by
  cases fuel <;> rfl

theorem weight_of_all? (read : all? fuel cs = some ts) : tokensWeight ts ≤ size cs := by
  induction fuel generalizing cs ts with
  | zero =>
      cases cs with
      | nil =>
          obtain rfl := Option.some.inj ((all?_nil 0).symm.trans read)
          exact Nat.le_refl _
      | cons c cs => simp [all?] at read
  | succ fuel ih =>
      cases cs with
      | nil =>
          obtain rfl := Option.some.inj ((all?_nil _).symm.trans read)
          exact Nat.le_refl _
      | cons c cs =>
          cases c with
          | none => simp [all?] at read
          | some c =>
              rw [all?] at read
              split at read
              · exact le_size_cons _ (ih read)
              · obtain ⟨⟨t, after⟩, next, read⟩ := Option.bind_eq_some_iff.mp read
                obtain ⟨ts, more, rfl⟩ := Option.map_eq_some_iff.mp read
                have head := weight_of_next? next
                have tail := ih more
                rw [tokensWeight_cons, size_cons]
                omega

theorem weight_of_lex? (read : lex? cs = some ts) : tokensWeight ts ≤ size cs :=
  weight_of_all? read

end Token

/-! A written value weighs what its tokens weigh. -/

mutual

theorem tokensWeight_tokens : ∀ j : Json, tokensWeight j.tokens = j.weight
  | .null | .bool _ | .number _ => by simp [tokens, weight, Token.weight]
  | .string _ => by simp [tokens, weight, Token.weight, legibleWeight]
  | .array items => by simp [tokens, weight, Token.weight, tokensWeight_itemTokens items]
  | .object members => by simp [tokens, weight, Token.weight, tokensWeight_memberTokens members]

theorem tokensWeight_itemTokens : ∀ items : List Json,
    tokensWeight (itemTokens items) = itemsWeight items
  | [] => rfl
  | [j] => by simp [itemTokens, tokensWeight_tokens j, itemsWeight, Token.weight]
  | j :: next :: items => by
      have head := tokensWeight_tokens j
      have tail := tokensWeight_itemTokens (next :: items)
      have comma : Token.comma.weight = 0 := rfl
      rw [itemTokens, tokensWeight_append, tokensWeight_cons, head, tail, comma,
        itemsWeight.eq_def (j :: _), Nat.zero_add]
      simp

theorem tokensWeight_memberTokens : ∀ members : Members,
    tokensWeight (memberTokens members) = membersWeight members
  | [] => rfl
  | [(name, j)] => by
      simp [memberTokens, tokensWeight_tokens j, membersWeight, Token.weight, legibleWeight]
  | (name, j) :: next :: members => by
      have head := tokensWeight_tokens j
      have tail := tokensWeight_memberTokens (next :: members)
      rw [memberTokens]
      · simp only [List.cons_append, tokensWeight_cons, tokensWeight_append, head, tail,
          Token.weight, legibleWeight, Option.elim_some]
        rw [membersWeight.eq_def ((name, j) :: _)]
        dsimp only
        omega
      · simp

end

namespace Tree

/-! A document weighs no more than its tokens. -/

mutual

theorem weight_of_parseValue? : ∀ {fuel room ts t rest},
    parseValue? fuel room ts = some (t, rest) → t.weight + tokensWeight rest ≤ tokensWeight ts
  | 0, _, _, _, _, parsed => by simp [parseValue?] at parsed
  | fuel + 1, room, [], _, _, parsed => by simp [parseValue?] at parsed
  | fuel + 1, room, token :: ts, t, rest, parsed => by
      unfold parseValue? at parsed
      split at parsed
      · obtain ⟨rfl, rfl⟩ := Prod.mk.inj (Option.some.inj parsed)
        simp [weight, Token.weight]
      · obtain ⟨rfl, rfl⟩ := Prod.mk.inj (Option.some.inj parsed)
        simp [weight, Token.weight]
      · next n =>
          obtain ⟨rfl, rfl⟩ := Prod.mk.inj (Option.some.inj parsed)
          cases n <;> simp [weight, Token.weight]
      · next s =>
          obtain ⟨rfl, rfl⟩ := Prod.mk.inj (Option.some.inj parsed)
          cases s <;> simp [weight, Token.weight, legibleWeight]
      · obtain ⟨⟨items, after⟩, read, same⟩ := Option.map_eq_some_iff.mp parsed
        obtain ⟨rfl, rfl⟩ := Prod.mk.inj same
        have inner : itemsWeight items + tokensWeight after ≤ tokensWeight ts := by
          split at read
          · obtain ⟨rfl, rfl⟩ := Prod.mk.inj (Option.some.inj read)
            simp [itemsWeight]
          · exact weight_of_parseItems? read
        rw [tokensWeight_cons]
        split
        · rw [weight]
          · omega
          all_goals simp
        · rw [weight]
          omega
      · obtain ⟨⟨members, after⟩, read, same⟩ := Option.map_eq_some_iff.mp parsed
        obtain ⟨rfl, rfl⟩ := Prod.mk.inj same
        have inner : membersWeight members + tokensWeight after ≤ tokensWeight ts := by
          split at read
          · obtain ⟨rfl, rfl⟩ := Prod.mk.inj (Option.some.inj read)
            simp [membersWeight]
          · exact weight_of_parseMembers? read
        rw [tokensWeight_cons]
        split
        · rw [weight]
          · omega
          all_goals simp
        · rw [weight]
          omega
      · contradiction

theorem weight_of_parseItems? : ∀ {fuel room ts items rest},
    parseItems? fuel room ts = some (items, rest) →
      itemsWeight items + tokensWeight rest ≤ tokensWeight ts
  | 0, _, _, _, _, parsed => by simp [parseItems?] at parsed
  | fuel + 1, room, ts, items, rest, parsed => by
      rw [parseItems?] at parsed
      obtain ⟨⟨t, after⟩, first, parsed⟩ := Option.bind_eq_some_iff.mp parsed
      have head := weight_of_parseValue? first
      dsimp only at parsed
      split at parsed
      · obtain ⟨rfl, rfl⟩ := Prod.mk.inj (Option.some.inj parsed)
        rw [tokensWeight_cons] at head
        rw [itemsWeight, itemsWeight]
        omega
      · obtain ⟨⟨items, after⟩, more, same⟩ := Option.map_eq_some_iff.mp parsed
        obtain ⟨rfl, rfl⟩ := Prod.mk.inj same
        have tail := weight_of_parseItems? more
        rw [tokensWeight_cons] at head
        dsimp only
        rw [itemsWeight]
        omega
      · contradiction

theorem weight_of_parseMembers? : ∀ {fuel room ts members rest},
    parseMembers? fuel room ts = some (members, rest) →
      membersWeight members + tokensWeight rest ≤ tokensWeight ts
  | 0, _, _, _, _, parsed => by simp [parseMembers?] at parsed
  | fuel + 1, room, ts, members, rest, parsed => by
      unfold parseMembers? at parsed
      split at parsed
      · next name ts =>
          have named : (Token.string name).weight = legibleWeight name := by cases name <;> rfl
          obtain ⟨⟨t, after⟩, first, parsed⟩ := Option.bind_eq_some_iff.mp parsed
          have head := weight_of_parseValue? first
          rw [tokensWeight_cons, tokensWeight_cons, named]
          dsimp only at parsed
          split at parsed
          · obtain ⟨rfl, rfl⟩ := Prod.mk.inj (Option.some.inj parsed)
            rw [tokensWeight_cons] at head
            rw [membersWeight, membersWeight]
            omega
          · obtain ⟨⟨members, after⟩, more, same⟩ := Option.map_eq_some_iff.mp parsed
            obtain ⟨rfl, rfl⟩ := Prod.mk.inj same
            have tail := weight_of_parseMembers? more
            rw [tokensWeight_cons] at head
            dsimp only
            rw [membersWeight]
            omega
          · contradiction
      · contradiction

end

theorem weight_of_ofTokens? (read : ofTokens? ts = some t) : t.weight ≤ tokensWeight ts := by
  unfold ofTokens? at read
  split at read
  · next parsed =>
      obtain rfl := Option.some.inj read
      exact weight_of_parseValue? parsed
  · contradiction

theorem weight_of_ofScanned? (read : ofScanned? cs = some t) : t.weight ≤ Utf8.size cs := by
  obtain ⟨ts, lexed, read⟩ := Option.bind_eq_some_iff.mp read
  exact (weight_of_ofTokens? read).trans (Token.weight_of_lex? lexed)

theorem weight_of_read? {text : String} (read : Tree.read? text = some t) :
    t.weight ≤ (Utf8.encode text).length :=
  Utf8.size_scanned text ▸ weight_of_ofScanned? read

theorem weight_of_readBytes? {bytes : Bytes} (read : readBytes? bytes = some t) :
    t.weight ≤ bytes.length :=
  (weight_of_ofScanned? read).trans (Utf8.size_scan_le bytes)

/-- However long the text of a value is, what is read from it weighs no more than the value. -/
theorem weight_of_read?_text {j : Json} (read : Tree.read? j.text = some t) :
    t.weight ≤ j.weight := by
  rw [Tree.read?, ofScanned?, lex?_text, Option.bind_some] at read
  rw [← tokensWeight_tokens]
  exact weight_of_ofTokens? read

end Tree

end DidMessaging.Json
