import DidMessaging.Json.Record
import DidMessaging.Proofs.Json.Members

namespace DidMessaging.Json

/-! Lists of values. -/

namespace Tree

theorem ofItems_eq_map (items : List Json) : ofItems items = items.map ofJson := by
  induction items with
  | nil => rfl
  | cons j items ih => rw [ofItems, ih, List.map_cons]

theorem ofMembers_eq_map (members : Members) :
    ofMembers members = members.map fun m => (some m.1, ofJson m.2) := by
  induction members with
  | nil => rfl
  | cons m members ih => rw [ofMembers, ih, List.map_cons]

theorem mapM_map_eq_some {f : β → Option γ} {g : α → β} {h : α → γ} {xs : List α}
    (each : ∀ x ∈ xs, f (g x) = some (h x)) : (xs.map g).mapM f = some (xs.map h) := by
  induction xs with
  | nil => rfl
  | cons x xs ih =>
      have head := each x List.mem_cons_self
      have tail := ih fun y member => each y (List.mem_cons_of_mem _ member)
      rw [List.map_cons, List.mapM_cons, head, tail]
      rfl

theorem list?_ofJson {f : Tree → Option α} {g : α → Json} {xs : List α}
    (reads : ∀ x ∈ xs, f (ofJson (g x)) = some x) :
    (ofJson (.array (xs.map g))).list? f = some xs := by
  rw [ofJson, ofItems_eq_map, List.map_map, list?]
  have each : ∀ x ∈ xs, f ((ofJson ∘ g) x) = some (id x) := reads
  rw [mapM_map_eq_some each, List.map_id]

@[simp] theorem string?_ofJson (s : String) : (ofJson (.string s)).string? = some s := rfl

@[simp] theorem bool?_ofJson (b : Bool) : (ofJson (.bool b)).bool? = some b := rfl

@[simp] theorem nat?_ofJson (n : UInt64) : (ofJson (.number (.nat n))).nat? = some n := rfl

@[simp] theorem strings?_ofJson (ss : List String) :
    (ofJson (.strings ss)).strings? = some ss :=
  list?_ofJson fun s _ => string?_ofJson s

theorem ofJson_eq_string_iff {j : Json} : ofJson j = .string s ↔ j = .string s := by
  cases j <;> simp [ofJson]

theorem optional?_ofJson {f : Tree → Option α} {j : Json} (notNull : j ≠ .null) :
    (ofJson j).optional? f = (f (ofJson j)).map some := by
  cases j with
  | null => contradiction
  | _ => rfl

end Tree

/-! The members of a written record. -/

@[simp] theorem names_optional (name : String) (f : α → Json) (a : Option α) :
    Members.names (optional name f a) = if a.isSome then [name] else [] := by
  cases a <;> rfl

@[simp] theorem mem_optional {name : String} {f : α → Json} {a : Option α} {m : String × Json} :
    m ∈ optional name f a ↔ ∃ x, a = some x ∧ m = (name, f x) := by
  cases a with
  | none => simp [optional]
  | some x => simp [optional]

theorem names_optional_sublist (name : String) (f : α → Json) (a : Option α) :
    (Members.names (optional name f a)).Sublist [name] := by
  cases a with
  | none => exact List.nil_sublist _
  | some a => exact .refl _

@[simp] theorem lookup_optional (name key : String) (f : α → Json) (a : Option α) :
    (optional name f a).lookup key = if key = name then a.map f else none := by
  cases a with
  | none => simp [optional]
  | some a => simp [optional]

namespace Fields

/-- The fields of a written record. -/
def ofMembers (members : Members) : Fields :=
  members.map fun m => (m.1, Tree.ofJson m.2)

@[simp] theorem names_ofMembers (members : Members) :
    (ofMembers members).map Prod.fst = Members.names members := by
  rw [ofMembers, List.map_map]
  rfl

theorem members?_ofJson (members : Members) :
    (Tree.ofJson (.object members)).members? = some (ofMembers members) := by
  rw [Tree.ofJson, Tree.ofMembers_eq_map, Tree.members?]
  exact Tree.mapM_map_eq_some fun m _ => rfl

theorem lookup_ofMembers (members : Members) (name : String) :
    (ofMembers members).lookup name = (members.lookup name).map Tree.ofJson := by
  induction members with
  | nil => rfl
  | cons m members ih =>
      rw [ofMembers, List.map_cons, List.lookup_cons, List.lookup_cons]
      cases name == m.1 with
      | true => rfl
      | false => exact ih

theorem filter_ofMembers (members : Members) (keep : String → Bool) :
    (ofMembers members).filter (fun m => keep m.1) =
      ofMembers (members.filter fun m => keep m.1) := by
  rw [ofMembers, List.filter_map]
  rfl

theorem known?_ofMembers {names : List String} {members : Members}
    (nodup : (Members.names members).Nodup) :
    known? names (ofMembers members) =
      some (ofMembers (members.filter fun m => names.contains m.1)) := by
  have kept : (Members.names (members.filter fun m => names.contains m.1)).Nodup :=
    (Members.names_sublist List.filter_sublist).nodup nodup
  simp only [known?, filter_ofMembers members (names.contains ·), names_ofMembers, kept, if_true]

/-- The fields hold what a written record has under each of the names. -/
def Written (names : List String) (found : String → Option Json) (fields : Fields) : Prop :=
  ∀ name ∈ names, fields.lookup name = (found name).map Tree.ofJson

theorem read?_ofJson (names : List String) (least : Nat) (members : Members)
    (nodup : (Members.names members).Nodup) :
    ∃ fields, read? names least (Tree.ofJson (.object members)) = some fields ∧
      Written names (fun name => members.lookup name) fields := by
  refine ⟨ofMembers (members.filter fun m => names.contains m.1), ?_, fun name listed => ?_⟩
  · have object : read? names least (Tree.ofJson (.object members)) =
        (Tree.ofJson (.object members)).members?.bind (known? names) := rfl
    rw [object, members?_ofJson, Option.bind_some, known?_ofMembers nodup]
  · rw [lookup_ofMembers, Members.lookup_filter listed]

/-- Of the fields that are read from an object each is among its members. -/
theorem lookup_of_read?_object {members : Members}
    (read : read? names least (.ofJson (.object members)) = some fields) (listed : name ∈ names) :
    fields.lookup name = some (.string s) ↔ (name, .string s) ∈ members := by
  have object : read? names least (.ofJson (.object members)) =
      (Tree.ofJson (.object members)).members?.bind (known? names) := rfl
  rw [object, members?_ofJson, Option.bind_some] at read
  simp only [known?, Option.ite_none_right_eq_some, Option.some.injEq] at read
  obtain ⟨nodup, rfl⟩ := read
  rw [Members.lookup_eq_some_iff nodup, List.mem_filter]
  simp [ofMembers, listed, Tree.ofJson_eq_string_iff]

theorem required?_string_eq_some_iff {fields : Fields} :
    fields.required? name (·.string?) = some s ↔ fields.lookup name = some (.string s) := by
  unfold required?
  cases fields.lookup name with
  | none => simp
  | some t => cases t <;> simp [Tree.string?]

theorem optional?_string_eq_some_iff {fields : Fields} :
    fields.optional? name (·.string?) = some (some s) ↔ fields.lookup name = some (.string s) := by
  unfold optional?
  cases fields.lookup name with
  | none => simp
  | some t => cases t <;> simp [Tree.optional?, Tree.string?]

theorem Written.required? {fields : Fields} {f : Tree → Option α}
    (written : Written names found fields) (listed : name ∈ names)
    (here : found name = some j) (reads : f (Tree.ofJson j) = some a) :
    fields.required? name f = some a := by
  rw [Fields.required?, written name listed, here, Option.map_some, Option.bind_some, reads]

theorem Written.required?_string {fields : Fields} (written : Written names found fields)
    (listed : name ∈ names) (here : found name = some (.string s)) :
    fields.required? name (·.string?) = some s :=
  written.required? listed here (Tree.string?_ofJson s)

theorem Written.required?_eq_none {fields : Fields} {f : Tree → Option α}
    (written : Written names found fields) (listed : name ∈ names)
    (missing : found name = none) : fields.required? name f = none := by
  rw [Fields.required?, written name listed, missing, Option.map_none, Option.bind_none]

/-- A field that is written only when there is a value. -/
theorem Written.optional? {fields : Fields} {f : Tree → Option α} {g : α → Json} {a : Option α}
    (written : Written names found fields) (listed : name ∈ names)
    (here : found name = a.map g) (reads : ∀ x ∈ a, f (Tree.ofJson (g x)) = some x)
    (notNull : ∀ x ∈ a, g x ≠ .null) : fields.optional? name f = some a := by
  rw [Fields.optional?, written name listed, here]
  cases a with
  | none => rfl
  | some x =>
      have read := Tree.optional?_ofJson (f := f) (notNull x rfl)
      rwa [reads x rfl] at read

theorem Written.optional?_string {fields : Fields} {a : Option String}
    (written : Written names found fields) (listed : name ∈ names)
    (here : found name = a.map .string) : fields.optional? name (·.string?) = some a :=
  written.optional? listed here (fun s _ => Tree.string?_ofJson s) (fun _ _ => by simp)

theorem Written.optional?_nat {fields : Fields} {a : Option UInt64}
    (written : Written names found fields) (listed : name ∈ names)
    (here : found name = a.map fun n => .number (.nat n)) :
    fields.optional? name (·.nat?) = some a :=
  written.optional? listed here (fun n _ => Tree.nat?_ofJson n) (fun _ _ => by simp)

theorem Written.defaulted? {fields : Fields} {f : Tree → Option α} {default : α}
    (written : Written names found fields) (listed : name ∈ names)
    (here : found name = some j) (reads : f (Tree.ofJson j) = some a) :
    fields.defaulted? name default f = some a := by
  rw [Fields.defaulted?, written name listed, here]
  exact reads

end Fields

end DidMessaging.Json
