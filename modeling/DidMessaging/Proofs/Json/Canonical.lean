import DidMessaging.Proofs.Json.Record

namespace DidMessaging.Json

theorem sortedItems_eq_map (items : List Json) : sortedItems items = items.map sorted := by
  induction items with
  | nil => rfl
  | cons j items ih => rw [sortedItems, ih, List.map_cons]

theorem sortedMembers_eq_map (members : Members) :
    sortedMembers members = members.map fun m => (m.1, m.2.sorted) := by
  induction members with
  | nil => rfl
  | cons m members ih => rw [sortedMembers, ih, List.map_cons]

theorem canonicalMembers_iff {members : Members} :
    CanonicalMembers members ↔ ∀ m ∈ members, m.2.Canonical := by
  induction members with
  | nil => simp [CanonicalMembers]
  | cons m members ih =>
      obtain ⟨name, j⟩ := m
      rw [CanonicalMembers, ih, List.forall_mem_cons]

mutual

theorem sorted_of_canonical : ∀ {j : Json}, j.Canonical → j.sorted = j
  | .null, _ | .bool _, _ | .number _, _ | .string _, _ => rfl
  | .array _, canonical => congrArg Json.array (sortedItems_of_canonical canonical)
  | .object members, ⟨ascending, canonical⟩ => by
      rw [sorted, sortedMembers_of_canonical canonical, Members.ofList_of_sorted ascending]

theorem sortedItems_of_canonical : ∀ {items : List Json}, CanonicalItems items →
    sortedItems items = items
  | [], _ => rfl
  | j :: items, ⟨head, tail⟩ => by
      rw [sortedItems, sorted_of_canonical head, sortedItems_of_canonical tail]

theorem sortedMembers_of_canonical : ∀ {members : Members}, CanonicalMembers members →
    sortedMembers members = members
  | [], _ => rfl
  | (name, j) :: members, ⟨head, tail⟩ => by
      rw [sortedMembers, sorted_of_canonical head, sortedMembers_of_canonical tail]

end

mutual

theorem canonical_sorted : ∀ j : Json, j.sorted.Canonical
  | .null | .bool _ | .number _ | .string _ => trivial
  | .array items => canonicalItems_sortedItems items
  | .object members => by
      refine ⟨Members.ofList_sorted _, canonicalMembers_iff.mpr fun m member => ?_⟩
      have each := canonicalMembers_iff.mp (canonicalMembers_sortedMembers members)
      exact each m (Members.mem_of_mem_ofList member)

theorem canonicalItems_sortedItems : ∀ items : List Json, CanonicalItems (sortedItems items)
  | [] => trivial
  | j :: items => ⟨canonical_sorted j, canonicalItems_sortedItems items⟩

theorem canonicalMembers_sortedMembers : ∀ members : Members,
    CanonicalMembers (sortedMembers members)
  | [] => trivial
  | (_, j) :: members => ⟨canonical_sorted j, canonicalMembers_sortedMembers members⟩

end

namespace Tree

mutual

theorem json?_ofJson : ∀ j : Json, (ofJson j).json? = some j.sorted
  | .null | .bool _ | .number _ | .string _ => rfl
  | .array items => by rw [ofJson, json?, jsonItems?_ofItems items, sorted, Option.map_some]
  | .object members => by
      rw [ofJson, json?, jsonMembers?_ofMembers members, sorted, Option.map_some]

theorem jsonItems?_ofItems : ∀ items : List Json,
    jsonItems? (ofItems items) = some (sortedItems items)
  | [] => rfl
  | j :: items => by
      rw [ofItems, jsonItems?, json?_ofJson j, Option.bind_some, jsonItems?_ofItems items,
        Option.map_some, sortedItems]

theorem jsonMembers?_ofMembers : ∀ members : Members,
    jsonMembers? (ofMembers members) = some (sortedMembers members)
  | [] => rfl
  | (name, j) :: members => by
      rw [ofMembers, jsonMembers?, Option.bind_some, json?_ofJson j, Option.bind_some,
        jsonMembers?_ofMembers members, Option.map_some, sortedMembers]

end

theorem json?_ofJson_of_canonical {j : Json} (canonical : j.Canonical) :
    (ofJson j).json? = some j := by
  rw [json?_ofJson, sorted_of_canonical canonical]

end Tree

namespace Tree

mutual

/-- What is read has maps of members only. -/
theorem canonical_of_json? : ∀ {t : Tree} {j : Json}, t.json? = some j → j.Canonical
  | .illegible, _, value => by simp [json?] at value
  | .null, _, value | .bool _, _, value | .number _, _, value | .string _, _, value => by
      obtain rfl := Option.some.inj value
      trivial
  | .array _, _, value => by
      obtain ⟨js, values, rfl⟩ := Option.map_eq_some_iff.mp value
      exact canonicalItems_of_jsonItems? values
  | .object _, _, value => by
      obtain ⟨ms, values, rfl⟩ := Option.map_eq_some_iff.mp value
      refine ⟨Members.ofList_sorted ms, canonicalMembers_iff.mpr fun m member => ?_⟩
      exact canonicalMembers_iff.mp (canonicalMembers_of_jsonMembers? values) m
        (Members.mem_of_mem_ofList member)

theorem canonicalItems_of_jsonItems? : ∀ {items : List Tree} {js : List Json},
    jsonItems? items = some js → CanonicalItems js
  | [], _, values => by
      obtain rfl := Option.some.inj values
      trivial
  | _ :: _, _, values => by
      obtain ⟨j, value, values⟩ := Option.bind_eq_some_iff.mp values
      obtain ⟨js, rest, rfl⟩ := Option.map_eq_some_iff.mp values
      exact ⟨canonical_of_json? value, canonicalItems_of_jsonItems? rest⟩

theorem canonicalMembers_of_jsonMembers? : ∀ {members : List (Option String × Tree)} {ms : Members},
    jsonMembers? members = some ms → CanonicalMembers ms
  | [], _, values => by
      obtain rfl := Option.some.inj values
      trivial
  | (name, _) :: _, _, values => by
      obtain ⟨name, rfl, named⟩ := Option.bind_eq_some_iff.mp values
      obtain ⟨j, value, more⟩ := Option.bind_eq_some_iff.mp named
      obtain ⟨ms, rest, rfl⟩ := Option.map_eq_some_iff.mp more
      exact ⟨canonical_of_json? value, canonicalMembers_of_jsonMembers? rest⟩

end

end Tree

/-! Records that were written in canonical form. -/

theorem names_sortedMembers (members : Members) :
    Members.names (sortedMembers members) = Members.names members := by
  rw [sortedMembers_eq_map, Members.names, List.map_map]
  rfl

theorem sorted_object_perm {members : Members} (nodup : (Members.names members).Nodup) :
    (Members.ofList (sortedMembers members)).Perm (sortedMembers members) :=
  Members.ofList_perm (by rwa [names_sortedMembers])

theorem lookup_sortedMembers (members : Members) (name : String) :
    (sortedMembers members).lookup name = (members.lookup name).map sorted := by
  induction members with
  | nil => rfl
  | cons m members ih =>
      obtain ⟨n, j⟩ := m
      rw [sortedMembers, Members.lookup_cons, Members.lookup_cons, ih]
      split <;> rfl

theorem lookup_sorted {members : Members} (nodup : (Members.names members).Nodup)
    (name : String) :
    (Members.ofList (sortedMembers members)).lookup name = (members.lookup name).map sorted := by
  rw [← lookup_sortedMembers]
  have nodup' := (Members.ofList_sorted (sortedMembers members)).nodup
  exact Members.lookup_perm nodup' (sorted_object_perm nodup) name

theorem Fields.read?_sorted (names : List String) (least : Nat) (members : Members)
    (nodup : (Members.names members).Nodup) :
    ∃ fields, Fields.read? names least (.ofJson (sorted (.object members))) = some fields ∧
      Written names (fun name => (members.lookup name).map sorted) fields := by
  obtain ⟨fields, read, written⟩ := Fields.read?_ofJson names least _
    (Members.ofList_sorted (sortedMembers members)).nodup
  refine ⟨fields, read, fun name listed => ?_⟩
  rw [written name listed]
  exact congrArg (Option.map Tree.ofJson) (lookup_sorted nodup name)

/-- The other members of an object that keeps what it does not know. -/
theorem Fields.open?_ofJson (names : List String) {members : Members}
    (nodup : (Members.names members).Nodup) :
    ∃ fields, Fields.open? names (.ofJson (.object members)) =
        some (fields, ofMembers (members.filter fun m => !names.contains m.1)) ∧
      Written names (fun name => members.lookup name) fields := by
  refine ⟨ofMembers (members.filter fun m => names.contains m.1), ?_, fun name listed => ?_⟩
  · have legible (others : Members) : (ofMembers others).all fun m => m.2.json?.isSome := by
      simp [ofMembers, Tree.json?_ofJson]
    rw [Fields.open?, members?_ofJson, Option.bind_eq_bind, Option.bind_some,
      known?_ofMembers nodup, Option.bind_eq_bind, Option.bind_some,
      filter_ofMembers members (!names.contains ·)]
    simp only [legible]
    rfl
  · rw [lookup_ofMembers, Members.lookup_filter listed]

theorem Fields.mapM_ofMembers (members : Members) :
    (ofMembers members).mapM (fun m => m.2.json?.map (m.1, ·)) = some (sortedMembers members) := by
  rw [ofMembers, sortedMembers_eq_map]
  refine Tree.mapM_map_eq_some fun m _ => ?_
  rw [Tree.json?_ofJson]
  rfl

theorem sorted_eq_string_iff {j : Json} : j.sorted = .string s ↔ j = .string s := by
  cases j <;> simp [sorted]

@[simp] theorem sorted_string (s : String) : (Json.string s).sorted = .string s := rfl

@[simp] theorem sorted_bool (b : Bool) : (Json.bool b).sorted = .bool b := rfl

@[simp] theorem sorted_number (n : Number) : (Json.number n).sorted = .number n := rfl

@[simp] theorem sorted_strings (ss : List String) : (Json.strings ss).sorted = .strings ss := by
  rw [strings, sorted, sortedItems_eq_map, List.map_map]
  rfl

end DidMessaging.Json
