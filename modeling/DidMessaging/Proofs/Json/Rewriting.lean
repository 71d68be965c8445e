import DidMessaging.Proofs.Json.Depth
import DidMessaging.Proofs.Result

namespace DidMessaging

/-! Typed readers find in a document that was read as a value and written again what they found in
the old one, although its members are sorted and repeated ones are gone. -/

namespace Members

variable {name : String}

theorem lookup_insert_ne {other : String} (different : name ≠ other) (value : α)
    (members : List (String × α)) :
    (insert other value members).lookup name = members.lookup name := by
  induction members with
  | nil => simp [insert, different]
  | cons m members ih =>
      rw [insert]
      split
      · rw [lookup_cons, if_neg different]
      · split
        · next same => rw [lookup_cons, if_neg different, lookup_cons, if_neg (same ▸ different)]
        · rw [lookup_cons, lookup_cons, ih]

/-- Of several members with one name the last is found. -/
theorem lookup_foldl_insert (map members : List (String × α)) :
    (members.foldl (fun map m => insert m.1 m.2 map) map).lookup name =
      (members.reverse.lookup name).or (map.lookup name) := by
  induction members generalizing map with
  | nil => rfl
  | cons m members ih =>
      rw [List.foldl_cons, ih, List.reverse_cons, List.lookup_append, Option.or_assoc, lookup_cons]
      by_cases same : name = m.1
      · rw [same, lookup_insert, if_pos rfl, Option.some_or]
      · rw [lookup_insert_ne same, if_neg same, List.lookup_nil, Option.none_or]

theorem lookup_ofList (members : List (String × α)) :
    (ofList members).lookup name = members.reverse.lookup name := by
  rw [ofList, lookup_foldl_insert, List.lookup_nil, Option.or_none]

/-- Where the members of interest occur once, the others do not matter. -/
theorem lookup_ofList_of_nodup {listed : List String} {members : List (String × α)}
    (nodup : (names (members.filter fun m => listed.contains m.1)).Nodup) (here : name ∈ listed) :
    (ofList members).lookup name =
      (members.filter fun m => listed.contains m.1).lookup name := by
  rw [lookup_ofList, ← lookup_filter here, List.filter_reverse]
  exact (lookup_perm nodup (List.reverse_perm _).symm name).symm

end Members

namespace Json

/-- One part of a document, and the same part of the document that its value is written as. -/
def Tree.Rewritten (t t' : Tree) : Prop := ∃ j, t.json? = some j ∧ t' = .ofJson j

/-- A reader that finds in the value of a document what it finds in the document. -/
def Stable (f : Tree → Option α) : Prop :=
  ∀ t t' a, t.Rewritten t' → f t = some a → f t' = some a

theorem stable_string? : Stable (·.string?) := by
  rintro t t' s ⟨j, value, rfl⟩ read
  cases t with
  | string found =>
      obtain rfl := Option.some.inj value
      exact read
  | _ => contradiction

/-- A field of a document, and the member that its value has for it. -/
def Valued (field : String × Tree) (m : String × Json) : Prop :=
  m.1 = field.1 ∧ field.2.json? = some m.2

namespace Tree

theorem rewritten_items {items : List Tree} {js : List Json}
    (values : jsonItems? items = some js) : List.Forall₂ Rewritten items (ofItems js) := by
  induction items generalizing js with
  | nil =>
      obtain rfl := Option.some.inj values
      exact .nil
  | cons t items ih =>
      obtain ⟨j, value, values⟩ := Option.bind_eq_some_iff.mp values
      obtain ⟨js, rest, rfl⟩ := Option.map_eq_some_iff.mp values
      exact .cons ⟨j, value, rfl⟩ (ih rest)

/-- The members of an object, and those of its value before they are sorted. -/
theorem valued_members {members : List (Option String × Tree)} {ms : Members} {fields : Fields}
    (named : (object members).members? = some fields)
    (values : jsonMembers? members = some ms) : List.Forall₂ Valued fields ms := by
  have each := Optional.mapM_eq_some_iff.mp named
  clear named
  induction each generalizing ms with
  | nil =>
      obtain rfl := Option.some.inj values
      exact .nil
  | @cons member field members fields head tail ih =>
      obtain ⟨name, t⟩ := member
      obtain ⟨name, rfl, rfl⟩ := Option.map_eq_some_iff.mp head
      rw [jsonMembers?, Option.bind_some] at values
      obtain ⟨j, value, values⟩ := Option.bind_eq_some_iff.mp values
      obtain ⟨ms, rest, rfl⟩ := Option.map_eq_some_iff.mp values
      exact .cons ⟨rfl, value⟩ (ih rest)

end Tree

namespace Stable

variable {f : Tree → Option α}

theorem mapM (stable : Stable f) {items items' : List Tree} {as : List α}
    (rewritten : List.Forall₂ Tree.Rewritten items items') (read : items.mapM f = some as) :
    items'.mapM f = some as := by
  rw [Optional.mapM_eq_some_iff] at read ⊢
  induction rewritten generalizing as with
  | nil => exact read
  | cons head tail ih =>
      obtain ⟨a, rest, first, others, rfl⟩ := List.forall₂_cons_left_iff.mp read
      exact .cons (stable _ _ _ head first) (ih others)

theorem list? (stable : Stable f) : Stable (·.list? f) := by
  rintro t t' as ⟨j, value, rfl⟩ read
  cases t with
  | array items =>
      obtain ⟨js, values, rfl⟩ := Option.map_eq_some_iff.mp value
      exact stable.mapM (Tree.rewritten_items values) read
  | _ => contradiction

/-- What is found in a text is found in the text of its value. -/
theorem read {text : String} {value : Json} (stable : Stable f) (read : read? text = some value)
    (same : value.Exact) (found : (Tree.read? text).bind f = some a) :
    (Tree.read? value.text).bind f = some a := by
  obtain ⟨t, treeRead, valued⟩ := Option.bind_eq_some_iff.mp read
  rw [treeRead, Option.bind_some] at found
  rw [Tree.read?_text_of_exact same (depth_of_read? read), Option.bind_some]
  exact stable t _ a ⟨value, valued, rfl⟩ found

end Stable

namespace Fields

variable {names : List String} {fields fields' : Fields} {f : Tree → Option α}

/-- The fields of a document, and those of the document that its value is written as. -/
def Rewritten (names : List String) (fields fields' : Fields) : Prop :=
  ∀ name ∈ names, Option.Rel Tree.Rewritten (fields.lookup name) (fields'.lookup name)

theorem Rewritten.required? (rewritten : Rewritten names fields fields') (listed : name ∈ names)
    (stable : Stable f) (read : fields.required? name f = some a) :
    fields'.required? name f = some a := by
  obtain ⟨t, found, read⟩ := Option.bind_eq_some_iff.mp read
  have related := rewritten name listed
  rw [found] at related
  unfold Fields.required?
  cases found' : fields'.lookup name with
  | none =>
      rw [found'] at related
      contradiction
  | some t' =>
      rw [found'] at related
      cases related with
      | some part => exact stable t t' a part read

theorem rewritten_zip (names : List String) {items items' : List Tree}
    (each : List.Forall₂ Tree.Rewritten items items') :
    Rewritten names (names.zip items) (names.zip items') := by
  intro name listed
  clear listed
  induction each generalizing names with
  | nil => simp
  | cons head tail ih =>
      cases names with
      | nil => simp
      | cons first names =>
          rw [List.zip_cons_cons, List.zip_cons_cons, Members.lookup_cons, Members.lookup_cons]
          by_cases same : name = first
          · rw [if_pos same, if_pos same]
            exact .some head
          · rw [if_neg same, if_neg same]
            exact ih names

theorem valued_filter {members : Fields} {ms : Members} (keep : String → Bool)
    (each : List.Forall₂ Valued members ms) :
    List.Forall₂ Valued (members.filter fun m => keep m.1) (ms.filter fun m => keep m.1) := by
  induction each with
  | nil => exact .nil
  | cons head tail ih =>
      rw [List.filter_cons, List.filter_cons, head.1]
      split
      · exact .cons head ih
      · exact ih

theorem rewritten_lookup {members : Fields} {ms : Members} (each : List.Forall₂ Valued members ms)
    (name : String) :
    Option.Rel Tree.Rewritten (members.lookup name) ((ms.lookup name).map Tree.ofJson) := by
  induction each with
  | nil => exact .none
  | @cons field m members ms head tail ih =>
      rw [Members.lookup_cons, Members.lookup_cons, head.1]
      by_cases same : name = field.1
      · rw [if_pos same, if_pos same]
        exact .some ⟨m.2, head.2, rfl⟩
      · rw [if_neg same, if_neg same]
        exact ih

theorem rewritten_known {members : Fields} {ms : Members} (each : List.Forall₂ Valued members ms)
    (known : known? names members = some fields) :
    Rewritten names fields
      (ofMembers ((Members.ofList ms).filter fun m => names.contains m.1)) := by
  simp only [known?, Option.ite_none_right_eq_some, Option.some.injEq] at known
  obtain ⟨nodup, rfl⟩ := known
  have kept := valued_filter (names.contains ·) each
  have nodup' : (Members.names (ms.filter fun m => names.contains m.1)).Nodup := by
    have same := Result.map_eq_map_of_forall₂ (kept.imp fun _ _ valued => valued.1)
    rwa [Members.names, same]
  intro name listed
  rw [lookup_ofMembers, Members.lookup_filter listed (Members.ofList ms),
    Members.lookup_ofList_of_nodup nodup' listed]
  exact rewritten_lookup kept name

/-- The fields of a record are found again in its value. -/
theorem read?_rewritten {least : Nat} {t t' : Tree} (written : t.Rewritten t')
    (read : read? names least t = some fields) :
    ∃ fields', read? names least t' = some fields' ∧ Rewritten names fields fields' := by
  obtain ⟨j, value, rfl⟩ := written
  cases t with
  | array items =>
      obtain ⟨js, values, rfl⟩ := Option.map_eq_some_iff.mp value
      have each := Tree.rewritten_items values
      simp only [read?, Option.ite_none_right_eq_some, Option.some.injEq] at read
      obtain ⟨fits, rfl⟩ := read
      refine ⟨_, ?_, rewritten_zip names each⟩
      exact if_pos (each.length_eq ▸ fits)
  | object members =>
      obtain ⟨ms, values, rfl⟩ := Option.map_eq_some_iff.mp value
      obtain ⟨fields₀, named, known⟩ := Option.bind_eq_some_iff.mp read
      refine ⟨_, ?_, rewritten_known (Tree.valued_members named values) known⟩
      have object : read? names least (.ofJson (.object (Members.ofList ms))) =
          (Tree.ofJson (.object (Members.ofList ms))).members?.bind (known? names) := rfl
      rw [object, members?_ofJson, Option.bind_some,
        known?_ofMembers (Members.ofList_sorted ms).nodup]
  | _ => contradiction

end Fields

end Json

end DidMessaging
