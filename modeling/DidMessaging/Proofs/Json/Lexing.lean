import DidMessaging.Json.Printer
import DidMessaging.Json.Tree
import DidMessaging.Proofs.Json.Decimal

namespace DidMessaging.Json

mutual

/-- The lexemes that a value is written as. -/
def tokens : Json → List Token
  | .null => [.null]
  | .bool b => [.bool b]
  | .number n => [.number n.reread?]
  | .string s => [.string (some s)]
  | .array items => .openArray :: itemTokens items
  | .object members => .openObject :: memberTokens members

def itemTokens : List Json → List Token
  | [] => [.closeArray]
  | [j] => j.tokens ++ [.closeArray]
  | j :: rest => j.tokens ++ .comma :: itemTokens rest

def memberTokens : List (String × Json) → List Token
  | [] => [.closeObject]
  | [(name, j)] => .string (some name) :: .colon :: j.tokens ++ [.closeObject]
  | (name, j) :: rest => .string (some name) :: .colon :: j.tokens ++ .comma :: memberTokens rest

end

namespace Token

/-! Strings. -/

/-- What the reader makes of a written character. -/
def piece (c : Char) : Piece :=
  if c.toNat < 0x20 ∧ c ∉ ['\x08', '\x09', '\x0a', '\x0c', '\x0d'] then .unit c.toNat
  else .scalar (some c)

theorem hexDigit?_hexDigit : ∀ n < 16, hexDigit? (some (hexDigit n)) = some n := by
  decide

theorem unit?_control {n : Nat} (small : n < 0x20) :
    unit? (some '0') (some '0') (some (hexDigit (n / 16))) (some (hexDigit (n % 16))) = some n := by
  have zero : hexDigit? (some '0') = some 0 := rfl
  have high := hexDigit?_hexDigit (n / 16) (by omega)
  have low := hexDigit?_hexDigit (n % 16) (by omega)
  simp only [unit?, zero, high, low, Option.bind_eq_bind, Option.bind_some, Option.pure_def,
    Option.some.injEq]
  omega

theorem pieces?_plain {c : Char} (visible : ¬c.toNat < 0x20) (notQuote : c ≠ '"')
    (notBackslash : c ≠ '\\') (done : List Piece) (rest : Scanned) :
    pieces? done (some c :: rest) = pieces? (.scalar (some c) :: done) rest := by
  rw [pieces?]
  · rw [if_neg (by simp [visible, notBackslash])]
  all_goals simp [notQuote, notBackslash]

/-- A written character is read as one piece. -/
theorem pieces?_escaped (c : Char) (done : List Piece) (rest : Scanned) :
    pieces? done ((escaped c).map some ++ rest) = pieces? (piece c :: done) rest := by
  unfold escaped
  split
  · rfl
  · rfl
  · rfl
  · rfl
  · rfl
  · rfl
  · rfl
  · next notQuote notBackslash notB notT notN notF notR =>
      by_cases control : c.toNat < 0x20
      · have isUnit : piece c = .unit c.toNat := if_pos ⟨control, by simp_all⟩
        rw [if_pos control, isUnit]
        simp only [List.map_cons, List.map_nil, List.cons_append, List.nil_append, pieces?,
          unit?_control control, Option.bind_some]
      · have isScalar : piece c = .scalar (some c) := if_neg fun both => control both.1
        rw [if_neg control, isScalar]
        exact pieces?_plain control (fun same => notQuote same) (fun same => notBackslash same)
          done rest

theorem pieces?_flatMap (cs : List Char) (done : List Piece) (rest : Scanned) :
    pieces? done ((cs.flatMap escaped).map some ++ some '"' :: rest) =
      some (done.reverse ++ cs.map piece, rest) := by
  induction cs generalizing done with
  | nil => simp [pieces?]
  | cons c cs ih =>
      rw [List.flatMap_cons, List.map_append, List.append_assoc, pieces?_escaped, ih]
      simp

theorem joined?_unit {n : Nat} (small : n < 0xD800) (rest : List Piece) :
    joined? (.unit n :: rest) = (joined? rest).map (Char.ofNat n :: ·) := by
  cases rest with
  | nil => simp [joined?, small]
  | cons p rest =>
      cases p with
      | unit l => rw [joined?, if_pos (.inl small)]
      | scalar c => simp [joined?, small]

theorem joined?_map_piece (cs : List Char) : joined? (cs.map piece) = some cs := by
  induction cs with
  | nil => rfl
  | cons c cs ih =>
      rw [List.map_cons, piece]
      split
      · next control =>
          rw [joined?_unit (by omega), ih, Option.map_some, Char.ofNat_toNat]
      · rw [joined?, ih, Option.bind_some, Option.map_some]

theorem string?_quoted (s : String) (rest : Scanned) :
    string? (((s.toList.flatMap escaped) ++ ['"']).map some ++ rest) = some (some s, rest) := by
  rw [List.map_append, List.append_assoc]
  simp only [string?, List.map_cons, List.map_nil, List.cons_append, List.nil_append,
    pieces?_flatMap, Option.map_some, List.reverse_nil, joined?_map_piece, String.ofList_toList]

/-! One token after the other. -/

/-- The text has these tokens, with any fuel that suffices for it. -/
def Lexes (cs : Scanned) (ts : List Token) : Prop :=
  ∀ fuel, cs.length ≤ fuel → all? fuel cs = some ts

theorem lexes_nil : Lexes [] [] := fun _ _ => by rw [all?]

theorem Lexes.token {c : Char} (lexes : Lexes after ts) (notBlank : isBlank c = false)
    (read : next? c rest = some (t, after)) (shorter : after.length ≤ rest.length) :
    Lexes (some c :: rest) (t :: ts) := by
  intro fuel enough
  cases fuel with
  | zero => simp at enough
  | succ fuel =>
      have enough : rest.length ≤ fuel := by simpa using enough
      simp only [all?, notBlank, read, Option.bind_some, lexes fuel (by omega), Option.map_some,
        Bool.false_eq_true, if_false]

theorem Lexes.string {s : String} (lexes : Lexes rest ts) :
    Lexes ((quoted s).map some ++ rest) (.string (some s) :: ts) := by
  have read : next? '"' (((s.toList.flatMap escaped) ++ ['"']).map some ++ rest) =
      some (.string (some s), rest) := by
    simp only [next?, string?_quoted, Option.map_some]
  exact lexes.token rfl read (by simp; omega)

theorem next?_number {c : Char} (first : c = '-' ∨ c.isDigit = true)
    (read : number? (some c :: rest) = some (l, after)) :
    next? c rest = some (.number l.value?, after) := by
  unfold next?
  split
  · simp [Char.isDigit] at first
  · simp [Char.isDigit] at first
  · simp [Char.isDigit] at first
  · simp [Char.isDigit] at first
  · simp [Char.isDigit] at first
  · simp [Char.isDigit] at first
  · simp [Char.isDigit] at first
  · rw [if_pos first, read, Option.map_some]

theorem not_isBlank_of_number {c : Char} (first : c = '-' ∨ c.isDigit = true) :
    isBlank c = false := by
  rcases first with rfl | digit
  · rfl
  · rw [Bool.eq_false_iff]
    intro blank
    simp only [isBlank, Bool.or_eq_true, decide_eq_true_eq] at blank
    rcases blank with ((rfl | rfl) | rfl) | rfl <;> contradiction

theorem Lexes.numeral {p : Number.Numeral} (lexes : Lexes rest ts) (lawful : p.Lawful)
    (ends : Ends rest) :
    Lexes (p.chars.map some ++ rest) (.number (p.lexeme false).value? :: ts) ∧
      Lexes (some '-' :: (p.chars.map some ++ rest)) (.number (p.lexeme true).value? :: ts) := by
  obtain ⟨read, readNegative⟩ := number?_chars lawful ends
  refine ⟨?_, lexes.token rfl (next?_number (.inl rfl) readNegative) (by simp)⟩
  obtain ⟨c, cs, first, -⟩ := lawful.leading
  have digit : c.isDigit = true := lawful.whole c (by simp [first])
  rw [Number.Numeral.chars, first, List.cons_append, List.map_cons, List.cons_append] at read ⊢
  exact lexes.token (not_isBlank_of_number (.inr digit)) (next?_number (.inr digit) read)
    (by simp; omega)

theorem Lexes.number (lexes : Lexes rest ts) (ends : Ends rest) (n : Number) :
    Lexes (n.text.map some ++ rest) (.number n.reread? :: ts) := by
  obtain ⟨plain, negative⟩ := lexes.numeral n.lawful_numeral ends
  rw [n.text_eq, Number.reread?]
  cases n.isNegative with
  | false => exact plain
  | true => exact negative

end Token

open Token

mutual

theorem lexes_chars : ∀ (j : Json) {rest ts}, Ends rest → Lexes rest ts →
    Lexes (j.chars.map some ++ rest) (j.tokens ++ ts)
  | .null, _, _, _, lexes => lexes.token rfl rfl (by simp; omega)
  | .bool true, _, _, _, lexes => lexes.token rfl rfl (by simp; omega)
  | .bool false, _, _, _, lexes => lexes.token rfl rfl (by simp; omega)
  | .number n, _, _, ends, lexes => lexes.number ends n
  | .string _, _, _, _, lexes => lexes.string
  | .array items, _, _, _, lexes => (lexes_itemChars items lexes).token rfl rfl (Nat.le_refl _)
  | .object members, _, _, _, lexes =>
      (lexes_memberChars members lexes).token rfl rfl (Nat.le_refl _)

theorem lexes_itemChars : ∀ (items : List Json) {rest ts}, Lexes rest ts →
    Lexes ((itemChars items).map some ++ rest) (itemTokens items ++ ts)
  | [], _, _, lexes => lexes.token rfl rfl (Nat.le_refl _)
  | [j], _, _, lexes => by
      rw [itemChars, itemTokens, List.map_append, List.append_assoc, List.append_assoc]
      exact lexes_chars j (ends_cons (by simp) _) (lexes.token rfl rfl (Nat.le_refl _))
  | j :: next :: items, _, _, lexes => by
      rw [itemChars, itemTokens, List.map_append, List.append_assoc, List.append_assoc]
      · exact lexes_chars j (ends_cons (by simp) _)
          ((lexes_itemChars (next :: items) lexes).token rfl rfl (Nat.le_refl _))
      · simp
      · simp

theorem lexes_memberChars : ∀ (members : Members) {rest ts}, Lexes rest ts →
    Lexes ((memberChars members).map some ++ rest) (memberTokens members ++ ts)
  | [], _, _, lexes => lexes.token rfl rfl (Nat.le_refl _)
  | [(name, j)], rest, ts, lexes => by
      have closed : Lexes (some '\x7d' :: rest) (.closeObject :: ts) :=
        lexes.token rfl rfl (Nat.le_refl _)
      have colon : Lexes (some ':' :: (j.chars.map some ++ some '\x7d' :: rest))
          (.colon :: (j.tokens ++ .closeObject :: ts)) :=
        (lexes_chars j (ends_cons (by decide) _) closed).token rfl rfl (Nat.le_refl _)
      simpa only [memberChars, memberTokens, List.map_append, List.map_cons, List.map_nil,
        List.append_assoc, List.cons_append, List.nil_append] using colon.string (s := name)
  | (name, j) :: next :: members, rest, ts, lexes => by
      have comma : Lexes (some ',' :: ((memberChars (next :: members)).map some ++ rest))
          (.comma :: (memberTokens (next :: members) ++ ts)) :=
        (lexes_memberChars (next :: members) lexes).token rfl rfl (Nat.le_refl _)
      have colon : Lexes (some ':' :: (j.chars.map some ++
            some ',' :: ((memberChars (next :: members)).map some ++ rest)))
          (.colon :: (j.tokens ++ .comma :: (memberTokens (next :: members) ++ ts))) :=
        (lexes_chars j (ends_cons (by decide) _) comma).token rfl rfl (Nat.le_refl _)
      rw [memberChars, memberTokens]
      · simpa only [List.map_append, List.map_cons, List.append_assoc, List.cons_append]
          using colon.string (s := name)
      · simp
      · simp

end

/-- The written text of a value has the value's tokens. -/
theorem lex?_text (j : Json) : lex? (scanned j.text) = some j.tokens := by
  have lexes := lexes_chars j ends_nil lexes_nil _ (Nat.le_refl _)
  simpa only [lex?, scanned, text, String.toList_ofList, List.append_nil] using lexes

end DidMessaging.Json
