import DidMessaging.Proofs.Json.Canonical
import DidMessaging.Proofs.Json.Lexing

namespace DidMessaging.Json

mutual

/-- All numbers in a value are whole. -/
def Whole : Json → Prop
  | .number n => n.Whole
  | .array items => WholeItems items
  | .object members => WholeMembers members
  | _ => True

def WholeItems : List Json → Prop
  | [] => True
  | j :: rest => j.Whole ∧ WholeItems rest

def WholeMembers : List (String × Json) → Prop
  | [] => True
  | (_, j) :: rest => j.Whole ∧ WholeMembers rest

end

mutual

/-- All numbers in a value are read as themselves when they are written. -/
def Exact : Json → Prop
  | .number n => n.reread? = some n
  | .array items => ExactItems items
  | .object members => ExactMembers members
  | _ => True

def ExactItems : List Json → Prop
  | [] => True
  | j :: rest => j.Exact ∧ ExactItems rest

def ExactMembers : List (String × Json) → Prop
  | [] => True
  | (_, j) :: rest => j.Exact ∧ ExactMembers rest

end

mutual

theorem exact_of_whole : ∀ {j : Json}, j.Whole → j.Exact
  | .null, _ | .bool _, _ | .string _, _ => trivial
  | .number _, whole => Number.reread?_of_whole whole
  | .array _, whole => exactItems_of_whole whole
  | .object _, whole => exactMembers_of_whole whole

theorem exactItems_of_whole : ∀ {items : List Json}, WholeItems items → ExactItems items
  | [], _ => trivial
  | _ :: _, ⟨whole, rest⟩ => ⟨exact_of_whole whole, exactItems_of_whole rest⟩

theorem exactMembers_of_whole : ∀ {members : Members}, WholeMembers members → ExactMembers members
  | [], _ => trivial
  | _ :: _, ⟨whole, rest⟩ => ⟨exact_of_whole whole, exactMembers_of_whole rest⟩

end

/-! What every part of a value has. -/

theorem wholeItems_iff {items : List Json} : WholeItems items ↔ ∀ j ∈ items, j.Whole := by
  induction items with
  | nil => simp [WholeItems]
  | cons j items ih => simp [WholeItems, ih]

theorem wholeMembers_iff {members : Members} : WholeMembers members ↔ ∀ m ∈ members, m.2.Whole := by
  induction members with
  | nil => simp [WholeMembers]
  | cons m members ih => simp [WholeMembers, ih]

theorem itemsDepth_le_iff {items : List Json} :
    itemsDepth items ≤ n ↔ ∀ j ∈ items, j.depth ≤ n := by
  induction items with
  | nil => simp [itemsDepth]
  | cons j items ih => simp [itemsDepth, ih]

theorem membersDepth_le_iff {members : Members} :
    membersDepth members ≤ n ↔ ∀ m ∈ members, m.2.depth ≤ n := by
  induction members with
  | nil => simp [membersDepth]
  | cons m members ih => simp [membersDepth, ih]

/-! Sorting adds nothing to a value. -/

mutual

theorem whole_sorted : ∀ {j : Json}, j.Whole → j.sorted.Whole
  | .null, whole | .bool _, whole | .number _, whole | .string _, whole => whole
  | .array _, whole => wholeItems_sortedItems whole
  | .object _, whole => wholeMembers_iff.mpr fun _ member =>
      wholeMembers_iff.mp (wholeMembers_sortedMembers whole) _ (Members.mem_of_mem_ofList member)

theorem wholeItems_sortedItems : ∀ {items : List Json}, WholeItems items →
    WholeItems (sortedItems items)
  | [], _ => trivial
  | _ :: _, ⟨whole, rest⟩ => ⟨whole_sorted whole, wholeItems_sortedItems rest⟩

theorem wholeMembers_sortedMembers : ∀ {members : Members}, WholeMembers members →
    WholeMembers (sortedMembers members)
  | [], _ => trivial
  | _ :: _, ⟨whole, rest⟩ => ⟨whole_sorted whole, wholeMembers_sortedMembers rest⟩

end

mutual

theorem depth_sorted_le : ∀ j : Json, j.sorted.depth ≤ j.depth
  | .null | .bool _ | .number _ | .string _ => Nat.le_refl _
  | .array items => Nat.succ_le_succ (itemsDepth_sortedItems_le items)
  | .object members => by
      have sortedDepth := membersDepth_sortedMembers_le members
      rw [sorted, depth, depth, Nat.succ_le_succ_iff, membersDepth_le_iff]
      intro m member
      exact membersDepth_le_iff.mp sortedDepth m (Members.mem_of_mem_ofList member)

theorem itemsDepth_sortedItems_le : ∀ items : List Json,
    itemsDepth (sortedItems items) ≤ itemsDepth items
  | [] => Nat.le_refl _
  | j :: items => max_le_max (depth_sorted_le j) (itemsDepth_sortedItems_le items)

theorem membersDepth_sortedMembers_le : ∀ members : Members,
    membersDepth (sortedMembers members) ≤ membersDepth members
  | [] => Nat.le_refl _
  | (_, j) :: members => max_le_max (depth_sorted_le j) (membersDepth_sortedMembers_le members)

end

theorem tokens_length_pos (j : Json) : 0 < j.tokens.length := by
  cases j with
  | null | bool | number | string | array | object => simp [tokens]

theorem itemTokens_cons {items : List Json} (more : items ≠ []) (j : Json) :
    itemTokens (j :: items) = j.tokens ++ .comma :: itemTokens items := by
  rw [itemTokens]
  exact more

theorem memberTokens_cons {members : Members} (more : members ≠ []) (name : String) (j : Json) :
    memberTokens ((name, j) :: members) =
      .string (some name) :: .colon :: j.tokens ++ .comma :: memberTokens members := by
  rw [memberTokens]
  exact more

namespace Tree

mutual

/-- What is read from the text of a value. A number may come back as another one or as none, and
what lies too deep has no value. -/
def reread : (room : Nat) → Json → Tree
  | _, .null => .null
  | _, .bool b => .bool b
  | _, .number n => n.reread?.elim .illegible .number
  | _, .string s => .string s
  | room, .array items => if room = 0 then .illegible else .array (rereadItems (room - 1) items)
  | room, .object members =>
    if room = 0 then .illegible else .object (rereadMembers (room - 1) members)

def rereadItems : (room : Nat) → List Json → List Tree
  | _, [] => []
  | room, j :: rest => reread room j :: rereadItems room rest

def rereadMembers : (room : Nat) → List (String × Json) → List (Option String × Tree)
  | _, [] => []
  | room, (name, j) :: rest => (some name, reread room j) :: rereadMembers room rest

end

mutual

theorem reread_of_exact : ∀ {room : Nat} {j : Json}, j.Exact → j.depth ≤ room →
    reread room j = ofJson j
  | _, .null, _, _ | _, .bool _, _, _ | _, .string _, _, _ => rfl
  | _, .number n, same, _ => by
      rw [reread, same]
      rfl
  | room, .array items, same, deep => by
      rw [depth] at deep
      rw [reread, if_neg (by omega), rereadItems_of_exact same (by omega), ofJson]
  | room, .object members, same, deep => by
      rw [depth] at deep
      rw [reread, if_neg (by omega), rereadMembers_of_exact same (by omega), ofJson]

theorem rereadItems_of_exact : ∀ {room : Nat} {items : List Json}, ExactItems items →
    itemsDepth items ≤ room → rereadItems room items = ofItems items
  | _, [], _, _ => rfl
  | room, j :: items, ⟨same, sameRest⟩, deep => by
      rw [itemsDepth] at deep
      rw [rereadItems, reread_of_exact same (by omega), rereadItems_of_exact sameRest (by omega),
        ofItems]

theorem rereadMembers_of_exact : ∀ {room : Nat} {members : Members}, ExactMembers members →
    membersDepth members ≤ room → rereadMembers room members = ofMembers members
  | _, [], _, _ => rfl
  | room, (name, j) :: members, ⟨same, sameRest⟩, deep => by
      rw [membersDepth] at deep
      rw [rereadMembers, reread_of_exact same (by omega),
        rereadMembers_of_exact sameRest (by omega), ofMembers]

end

/-! One step of the reader. -/

theorem parseItems?_closeArray (fuel room : Nat) (rest : List Token) :
    parseItems? fuel room (.closeArray :: rest) = none := by
  cases fuel with
  | zero => rfl
  | succ fuel => cases fuel <;> rfl

theorem parseMembers?_closeObject (fuel room : Nat) (rest : List Token) :
    parseMembers? fuel room (.closeObject :: rest) = none := by
  cases fuel with
  | zero | succ => rfl

theorem parseValue?_array (read : parseItems? fuel (room - 1) ts = some (items, rest)) :
    parseValue? (fuel + 1) room (.openArray :: ts) =
      some (if room = 0 then .illegible else .array items, rest) := by
  rw [parseValue?, read, Option.map_some]
  rintro after rfl
  rw [parseItems?_closeArray] at read
  contradiction

theorem parseValue?_object (read : parseMembers? fuel (room - 1) ts = some (members, rest)) :
    parseValue? (fuel + 1) room (.openObject :: ts) =
      some (if room = 0 then .illegible else .object members, rest) := by
  rw [parseValue?, read, Option.map_some]
  rintro after rfl
  rw [parseMembers?_closeObject] at read
  contradiction

theorem parseItems?_last (read : parseValue? fuel room ts = some (t, .closeArray :: rest)) :
    parseItems? (fuel + 1) room ts = some ([t], rest) := by
  rw [parseItems?, read, Option.bind_some]

theorem parseItems?_more (read : parseValue? fuel room ts = some (t, .comma :: more))
    (readMore : parseItems? fuel room more = some (items, rest)) :
    parseItems? (fuel + 1) room ts = some (t :: items, rest) := by
  rw [parseItems?, read, Option.bind_some]
  simp only [readMore, Option.map_some]

theorem parseMembers?_last (read : parseValue? fuel room ts = some (t, .closeObject :: rest)) :
    parseMembers? (fuel + 1) room (.string name :: .colon :: ts) = some ([(name, t)], rest) := by
  rw [parseMembers?, read, Option.bind_some]

theorem parseMembers?_more (read : parseValue? fuel room ts = some (t, .comma :: more))
    (readMore : parseMembers? fuel room more = some (members, rest)) :
    parseMembers? (fuel + 1) room (.string name :: .colon :: ts) =
      some ((name, t) :: members, rest) := by
  rw [parseMembers?, read, Option.bind_some]
  simp only [readMore, Option.map_some]

/-! All of the tokens of a value. -/

mutual

/-- The tokens of a value are read, whatever follows them. -/
theorem parseValue?_tokens : ∀ {fuel : Nat} (room : Nat) (j : Json),
    2 * j.tokens.length ≤ fuel → ∀ rest,
    parseValue? fuel room (j.tokens ++ rest) = some (reread room j, rest)
  | 0, _, j, enough, _ => by
      have := tokens_length_pos j
      omega
  | _ + 1, _, .null, _, _ | _ + 1, _, .bool _, _, _ | _ + 1, _, .string _, _, _
  | _ + 1, _, .number _, _, _ | _ + 1, _, .array [], _, _ | _ + 1, _, .object [], _, _ => rfl
  | fuel + 1, room, .array (j :: items), enough, rest => by
      rw [tokens, List.length_cons] at enough
      exact parseValue?_array (parseItems?_tokens (room - 1) (by simp) (by omega) rest)
  | fuel + 1, room, .object (m :: members), enough, rest => by
      rw [tokens, List.length_cons] at enough
      exact parseValue?_object (parseMembers?_tokens (room - 1) (by simp) (by omega) rest)

theorem parseItems?_tokens : ∀ {fuel : Nat} (room : Nat) {items : List Json}, items ≠ [] →
    2 * (itemTokens items).length ≤ fuel → ∀ rest,
    parseItems? fuel room (itemTokens items ++ rest) = some (rereadItems room items, rest)
  | _, _, [], nonempty, _, _ => absurd rfl nonempty
  | 0, _, j :: items, _, enough, _ => by
      have := tokens_length_pos j
      cases items <;> simp [itemTokens] at enough
  | fuel + 1, room, [j], _, enough, rest => by
      rw [itemTokens, List.length_append, List.length_singleton] at enough
      rw [itemTokens, List.append_assoc]
      exact parseItems?_last (parseValue?_tokens room j (by omega) _)
  | fuel + 1, room, j :: next :: items, _, enough, rest => by
      rw [itemTokens_cons (by simp), List.length_append, List.length_cons] at enough
      rw [itemTokens_cons (by simp), List.append_assoc]
      exact parseItems?_more (parseValue?_tokens room j (by omega) _)
        (parseItems?_tokens room (by simp) (by omega) rest)

theorem parseMembers?_tokens : ∀ {fuel : Nat} (room : Nat) {members : Members}, members ≠ [] →
    2 * (memberTokens members).length ≤ fuel → ∀ rest,
    parseMembers? fuel room (memberTokens members ++ rest) = some (rereadMembers room members, rest)
  | _, _, [], nonempty, _, _ => absurd rfl nonempty
  | 0, _, (name, j) :: members, _, enough, _ => by
      cases members <;> simp [memberTokens] at enough
  | fuel + 1, room, [(name, j)], _, enough, rest => by
      rw [memberTokens, List.length_append, List.length_cons, List.length_cons] at enough
      rw [memberTokens, List.append_assoc]
      exact parseMembers?_last (parseValue?_tokens room j (by omega) _)
  | fuel + 1, room, (name, j) :: next :: members, _, enough, rest => by
      rw [memberTokens_cons (by simp), List.length_append, List.length_cons, List.length_cons,
        List.length_cons] at enough
      rw [memberTokens_cons (by simp), List.append_assoc]
      exact parseMembers?_more (parseValue?_tokens room j (by omega) _)
        (parseMembers?_tokens room (by simp) (by omega) rest)

end

/-- The text of every value is read, if not always as that value. -/
theorem read?_text_eq_reread (j : Json) : read? j.text = some (reread deepest j) := by
  have parsed := parseValue?_tokens deepest j (Nat.le_refl (2 * j.tokens.length)) []
  rw [List.append_nil] at parsed
  simp only [read?, ofScanned?, lex?_text j, Option.bind_some, ofTokens?, parsed]

/-- A written value that is not too deep, all of whose numbers stay, is read as its document. -/
theorem read?_text_of_exact {j : Json} (same : j.Exact) (deep : j.depth ≤ deepest) :
    read? j.text = some (ofJson j) := by
  rw [read?_text_eq_reread, reread_of_exact same deep]

theorem read?_text {j : Json} (whole : j.Whole) (deep : j.depth ≤ deepest) :
    read? j.text = some (ofJson j) :=
  read?_text_of_exact (exact_of_whole whole) deep

end Tree

/-- What is written without fractions is read where there is room for its depth. -/
structure Legible (room : Nat) (j : Json) : Prop where
  whole : j.Whole
  deep : j.depth ≤ room

namespace Legible

theorem sorted {j : Json} (legible : j.Legible room) : j.sorted.Legible room where
  whole := whole_sorted legible.whole
  deep := Nat.le_trans (depth_sorted_le j) legible.deep

theorem mono {j : Json} (legible : j.Legible room) (more : room ≤ room') : j.Legible room' where
  whole := legible.whole
  deep := Nat.le_trans legible.deep more

end Legible

theorem canonical_of_read? {text : String} (read : read? text = some j) : j.Canonical := by
  obtain ⟨t, -, value⟩ := Option.bind_eq_some_iff.mp read
  exact Tree.canonical_of_json? value

theorem read?_text {j : Json} (whole : j.Whole) (deep : j.depth ≤ Tree.deepest) :
    read? j.text = some j.sorted := by
  rw [read?, Tree.read?_text whole deep, Option.bind_some, Tree.json?_ofJson]

theorem Legible.object {members : Members} (each : ∀ m ∈ members, m.2.Legible room) :
    (object members).Legible (room + 1) where
  whole := wholeMembers_iff.mpr fun m member => (each m member).whole
  deep := Nat.succ_le_succ (membersDepth_le_iff.mpr fun m member => (each m member).deep)

theorem Legible.read?_text {j : Json} (legible : j.Legible Tree.deepest) (canonical : j.Canonical) :
    read? j.text = some j := by
  rw [Json.read?_text legible.whole legible.deep, sorted_of_canonical canonical]

/-- A written object is read as one with members of the same names. -/
theorem read?_text_object {members : Members} (nodup : (Members.names members).Nodup)
    (whole : (object members).Whole) (deep : (object members).depth ≤ Tree.deepest) :
    ∃ found, read? (object members).text = some (.object found) ∧
      ∀ name, name ∈ Members.names found ↔ name ∈ Members.names members := by
  refine ⟨_, read?_text whole deep, fun name => ?_⟩
  rw [(Members.names_perm (sorted_object_perm nodup)).mem_iff, names_sortedMembers]

/-! Strings come back, whatever the numbers beside them come to. -/

namespace Tree

theorem json?_reread_eq_string_iff {j : Json} :
    (reread room j).json? = some (.string s) ↔ j = .string s := by
  cases j with
  | null => simp [reread, json?]
  | bool b => simp [reread, json?]
  | number n => cases found : n.reread? <;> simp [reread, json?, found]
  | string text => simp [reread, json?]
  | array items => by_cases full : room = 0 <;> simp [reread, json?, full]
  | object members => by_cases full : room = 0 <;> simp [reread, json?, full]

theorem jsonMembers?_reread {members ms : Members}
    (values : jsonMembers? (rereadMembers room members) = some ms) :
    Members.names ms = Members.names members ∧
      ∀ name s, (name, .string s) ∈ ms ↔ (name, .string s) ∈ members := by
  induction members generalizing ms with
  | nil =>
      obtain rfl := Option.some.inj values
      simp
  | cons m members ih =>
      obtain ⟨first, j⟩ := m
      rw [rereadMembers, jsonMembers?, Option.bind_some] at values
      obtain ⟨j', value, values⟩ := Option.bind_eq_some_iff.mp values
      obtain ⟨ms, rest, rfl⟩ := Option.map_eq_some_iff.mp values
      obtain ⟨names, strings⟩ := ih rest
      refine ⟨congrArg (first :: ·) names, fun name s => ?_⟩
      have here : j' = .string s ↔ j = .string s := by
        rw [← Option.some.injEq, ← value]
        exact json?_reread_eq_string_iff
      rw [List.mem_cons, List.mem_cons, strings, Prod.mk.injEq, Prod.mk.injEq, eq_comm (b := j'),
        eq_comm (b := j), here]

end Tree

theorem mem_string_of_read?_text {members found : Members} (nodup : (Members.names members).Nodup)
    (read : read? (object members).text = some (.object found)) :
    (name, .string s) ∈ found ↔ (name, .string s) ∈ members := by
  rw [read?, Tree.read?_text_eq_reread, Option.bind_some, Tree.reread, if_neg (by decide)] at read
  obtain ⟨ms, values, same⟩ := Option.map_eq_some_iff.mp read
  obtain rfl := Json.object.inj same
  obtain ⟨names, strings⟩ := Tree.jsonMembers?_reread values
  rw [(Members.ofList_perm (names ▸ nodup)).mem_iff, strings]

end DidMessaging.Json
