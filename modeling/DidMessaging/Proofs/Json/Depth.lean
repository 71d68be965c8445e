import DidMessaging.Proofs.Json.Reading

namespace DidMessaging.Json

namespace Tree

/-- What a document has as its value opens no more arrays and objects than there is room for. -/
def Shallow (room : Nat) (t : Tree) : Prop := ∀ j, t.json? = some j → j.depth ≤ room

theorem shallow_of_depth {t : Tree} (flat : ∀ j, t.json? = some j → j.depth = 0) :
    t.Shallow room := by
  intro j value
  rw [flat j value]
  exact Nat.zero_le room

theorem itemsDepth_le_of_shallow {items : List Tree} (each : ∀ t ∈ items, t.Shallow room)
    (values : jsonItems? items = some js) : itemsDepth js ≤ room := by
  induction items generalizing js with
  | nil =>
      cases values
      exact Nat.zero_le room
  | cons t items ih =>
      obtain ⟨j, value, values⟩ := Option.bind_eq_some_iff.mp values
      obtain ⟨js, rest, rfl⟩ := Option.map_eq_some_iff.mp values
      have ⟨head, tail⟩ := List.forall_mem_cons.mp each
      exact max_le (head j value) (ih tail rest)

theorem membersDepth_le_of_shallow {members : List (Option String × Tree)}
    (each : ∀ m ∈ members, m.2.Shallow room) (values : jsonMembers? members = some ms) :
    membersDepth ms ≤ room := by
  induction members generalizing ms with
  | nil =>
      cases values
      exact Nat.zero_le room
  | cons m members ih =>
      obtain ⟨name, -, values⟩ := Option.bind_eq_some_iff.mp values
      obtain ⟨j, value, values⟩ := Option.bind_eq_some_iff.mp values
      obtain ⟨ms, rest, rfl⟩ := Option.map_eq_some_iff.mp values
      have ⟨head, tail⟩ := List.forall_mem_cons.mp each
      exact max_le (head j value) (ih tail rest)

theorem shallow_array {items : List Tree} (each : ∀ t ∈ items, t.Shallow room) :
    (array items).Shallow (room + 1) := by
  intro j value
  obtain ⟨js, values, rfl⟩ := Option.map_eq_some_iff.mp value
  exact Nat.succ_le_succ (itemsDepth_le_of_shallow each values)

/-- Of several members with one name only the last is left. -/
theorem shallow_object {members : List (Option String × Tree)}
    (each : ∀ m ∈ members, m.2.Shallow room) : (object members).Shallow (room + 1) := by
  intro j value
  obtain ⟨ms, values, rfl⟩ := Option.map_eq_some_iff.mp value
  have deepest := membersDepth_le_iff.mp (membersDepth_le_of_shallow each values)
  apply Nat.succ_le_succ
  apply membersDepth_le_iff.mpr
  intro m member
  exact deepest m (Members.mem_of_mem_ofList member)

/-- Without room an array or object is closed to readers. -/
theorem shallow_opened {t : Tree} (inside : t.Shallow (room - 1 + 1)) :
    (if room = 0 then illegible else t).Shallow room := by
  split
  · exact shallow_of_depth (by simp [json?])
  · next opens => rwa [Nat.sub_add_cancel (Nat.pos_of_ne_zero opens)] at inside

mutual

theorem shallow_of_parseValue? : ∀ {fuel room ts t rest},
    parseValue? fuel room ts = some (t, rest) → t.Shallow room
  | 0, _, _, _, _, parsed => by simp [parseValue?] at parsed
  | fuel + 1, room, [], _, _, parsed => by simp [parseValue?] at parsed
  | fuel + 1, room, token :: ts, t, rest, parsed => by
      unfold parseValue? at parsed
      split at parsed
      · cases parsed
        exact shallow_of_depth (by simp [json?, depth])
      · cases parsed
        exact shallow_of_depth (by simp [json?, depth])
      · next n =>
          cases parsed
          cases n <;> exact shallow_of_depth (by simp [json?, depth])
      · next s =>
          cases parsed
          cases s <;> exact shallow_of_depth (by simp [json?, depth])
      · obtain ⟨⟨items, after⟩, read, same⟩ := Option.map_eq_some_iff.mp parsed
        cases same
        apply shallow_opened
        apply shallow_array
        split at read
        · cases read
          simp
        · exact shallow_of_parseItems? read
      · obtain ⟨⟨members, after⟩, read, same⟩ := Option.map_eq_some_iff.mp parsed
        cases same
        apply shallow_opened
        apply shallow_object
        split at read
        · cases read
          simp
        · exact shallow_of_parseMembers? read
      · contradiction

theorem shallow_of_parseItems? : ∀ {fuel room ts items rest},
    parseItems? fuel room ts = some (items, rest) → ∀ t ∈ items, t.Shallow room
  | 0, _, _, _, _, parsed => by simp [parseItems?] at parsed
  | fuel + 1, room, ts, items, rest, parsed => by
      rw [parseItems?] at parsed
      obtain ⟨⟨t, after⟩, first, parsed⟩ := Option.bind_eq_some_iff.mp parsed
      have head := shallow_of_parseValue? first
      dsimp only at parsed
      split at parsed
      · cases parsed
        exact List.forall_mem_singleton.mpr head
      · obtain ⟨⟨items, after⟩, more, same⟩ := Option.map_eq_some_iff.mp parsed
        cases same
        exact List.forall_mem_cons.mpr ⟨head, shallow_of_parseItems? more⟩
      · contradiction

theorem shallow_of_parseMembers? : ∀ {fuel room ts members rest},
    parseMembers? fuel room ts = some (members, rest) → ∀ m ∈ members, m.2.Shallow room
  | 0, _, _, _, _, parsed => by simp [parseMembers?] at parsed
  | fuel + 1, room, ts, members, rest, parsed => by
      unfold parseMembers? at parsed
      split at parsed
      · obtain ⟨⟨t, after⟩, first, parsed⟩ := Option.bind_eq_some_iff.mp parsed
        have head := shallow_of_parseValue? first
        dsimp only at parsed
        split at parsed
        · cases parsed
          exact List.forall_mem_singleton.mpr head
        · obtain ⟨⟨members, after⟩, more, same⟩ := Option.map_eq_some_iff.mp parsed
          cases same
          exact List.forall_mem_cons.mpr ⟨head, shallow_of_parseMembers? more⟩
        · contradiction
      · contradiction

end

theorem shallow_of_read? {text : String} (read : read? text = some t) : t.Shallow deepest := by
  obtain ⟨ts, -, parsed⟩ := Option.bind_eq_some_iff.mp read
  unfold ofTokens? at parsed
  split at parsed
  · next t' whole =>
      cases parsed
      exact shallow_of_parseValue? whole
  · contradiction

end Tree

theorem depth_of_read? {text : String} (read : read? text = some value) :
    value.depth ≤ Tree.deepest := by
  obtain ⟨t, treeRead, valued⟩ := Option.bind_eq_some_iff.mp read
  exact Tree.shallow_of_read? treeRead value valued

/-- A value that was read is read again when it is written. -/
theorem read?_text_of_read? {text : String} (read : read? text = some value) (same : value.Exact) :
    read? value.text = some value := by
  rw [read?, Tree.read?_text_of_exact same (depth_of_read? read), Option.bind_some,
    Tree.json?_ofJson_of_canonical (canonical_of_read? read)]

end DidMessaging.Json
