import DidMessaging.Json.Value
import Mathlib.Data.List.Sort
import Mathlib.Data.String.Basic

namespace DidMessaging.Members

/-! Names. -/

@[simp] theorem names_nil : names ([] : List (String × α)) = [] := rfl

@[simp] theorem names_cons (m : String × α) (members : List (String × α)) :
    names (m :: members) = m.1 :: names members := rfl

@[simp] theorem names_append (before after : List (String × α)) :
    names (before ++ after) = names before ++ names after :=
  List.map_append

theorem names_sublist {part members : List (String × α)} (h : part.Sublist members) :
    (names part).Sublist (names members) :=
  h.map Prod.fst

theorem names_perm {members others : List (String × α)} (h : members.Perm others) :
    (names members).Perm (names others) :=
  h.map Prod.fst

theorem mem_names_of_mem {members : List (String × α)} (h : (name, value) ∈ members) :
    name ∈ names members :=
  List.mem_map_of_mem h

theorem sorted_nil : Sorted ([] : List (String × α)) := List.Pairwise.nil

theorem Sorted.nodup {members : List (String × α)} (h : Sorted members) : (names members).Nodup :=
  h.imp fun less => ne_of_lt less

/-! Inserting. -/

theorem insert_perm {members : List (String × α)} (fresh : name ∉ names members) (value : α) :
    (insert name value members).Perm ((name, value) :: members) := by
  induction members with
  | nil => exact .refl _
  | cons m members ih =>
      obtain ⟨n, v⟩ := m
      have different : name ≠ n := fun same => fresh (same ▸ List.mem_cons_self)
      have freshRest : name ∉ names members := fun member => fresh (List.mem_cons_of_mem _ member)
      rw [insert]
      split
      · exact .refl _
      · exact ((ih freshRest).cons (n, v)).trans (.swap _ _ _)

theorem mem_insert {members : List (String × α)} {value : α}
    (member : m ∈ insert name value members) : m = (name, value) ∨ m ∈ members := by
  induction members with
  | nil => simpa [insert] using member
  | cons m' members ih =>
      obtain ⟨k, v⟩ := m'
      rw [insert] at member
      split at member
      · simpa using member
      · split at member
        · rw [List.mem_cons] at member ⊢
          exact member.imp_right .inr
        · rw [List.mem_cons] at member ⊢
          rcases member with head | tail
          · exact .inr (.inl head)
          · exact (ih tail).imp_right .inr

theorem mem_names_insert {members : List (String × α)} {value : α}
    (member : n ∈ names (insert name value members)) : n = name ∨ n ∈ names members := by
  obtain ⟨m, inserted, rfl⟩ := List.mem_map.mp member
  rcases mem_insert inserted with rfl | old
  · exact .inl rfl
  · exact .inr (List.mem_map_of_mem old)

theorem insert_sorted {members : List (String × α)} (sorted : Sorted members) (name : String)
    (value : α) : Sorted (insert name value members) := by
  induction members with
  | nil => exact List.pairwise_singleton _ _
  | cons m members ih =>
      obtain ⟨n, v⟩ := m
      obtain ⟨least, rest⟩ := List.pairwise_cons.mp sorted
      rw [insert]
      split
      · next less =>
          refine List.pairwise_cons.mpr ⟨?_, sorted⟩
          intro k member
          rcases List.mem_cons.mp member with rfl | tail
          · exact less
          · exact less.trans (least k tail)
      · next notLess =>
          split
          · next same =>
              subst same
              exact List.pairwise_cons.mpr ⟨least, rest⟩
          · next different =>
              refine List.pairwise_cons.mpr ⟨?_, ih rest⟩
              intro k member
              rcases mem_names_insert member with rfl | tail
              · exact lt_of_le_of_ne (not_lt.mp notLess) (Ne.symm different)
              · exact least k tail

theorem filter_insert (name : String) (value : α) (members : List (String × α)) :
    (insert name value members).filter (·.1 ≠ name) = members.filter (·.1 ≠ name) := by
  induction members with
  | nil => simp [insert]
  | cons m members ih =>
      rw [insert]
      split
      · simp
      · split
        · next same => simp [same]
        · rw [List.filter_cons, List.filter_cons, ih]

/-! Putting members in one after the other. -/

theorem foldl_insert_sorted {map : List (String × α)} (sorted : Sorted map)
    (members : List (String × α)) :
    Sorted (members.foldl (fun map m => insert m.1 m.2 map) map) := by
  induction members generalizing map with
  | nil => exact sorted
  | cons m members ih => exact ih (insert_sorted sorted m.1 m.2)

theorem ofList_sorted (members : List (String × α)) : Sorted (ofList members) :=
  foldl_insert_sorted sorted_nil members

theorem mem_foldl_insert {map members : List (String × α)}
    (member : m ∈ members.foldl (fun map m => insert m.1 m.2 map) map) :
    m ∈ members ∨ m ∈ map := by
  induction members generalizing map with
  | nil => exact .inr member
  | cons m' members ih =>
      rcases ih member with tail | inserted
      · exact .inl (List.mem_cons_of_mem _ tail)
      · rcases mem_insert inserted with rfl | old
        · exact .inl List.mem_cons_self
        · exact .inr old

theorem mem_of_mem_ofList {members : List (String × α)} (member : m ∈ ofList members) :
    m ∈ members :=
  (mem_foldl_insert member).resolve_right List.not_mem_nil

theorem foldl_insert_perm {map members : List (String × α)}
    (nodup : (names (members ++ map)).Nodup) :
    (members.foldl (fun map m => insert m.1 m.2 map) map).Perm (members ++ map) := by
  induction members generalizing map with
  | nil => exact .refl _
  | cons m members ih =>
      have middle : (members ++ m :: map).Perm (m :: members ++ map) := List.perm_middle
      have nodup' : (names (members ++ m :: map)).Nodup :=
        (names_perm middle).nodup_iff.mpr nodup
      have fresh : m.1 ∉ names map := by
        rw [names_append, List.nodup_append] at nodup'
        exact (List.nodup_cons.mp nodup'.2.1).1
      have inserted := insert_perm fresh m.2
      have step : (members ++ insert m.1 m.2 map).Perm (members ++ m :: map) :=
        inserted.append_left members
      exact (ih ((names_perm step).nodup_iff.mpr nodup')).trans (step.trans middle)

theorem ofList_perm {members : List (String × α)} (nodup : (names members).Nodup) :
    (ofList members).Perm members := by
  have nodup' : (names (members ++ [])).Nodup := by rwa [List.append_nil]
  have perm := foldl_insert_perm nodup'
  rwa [List.append_nil] at perm

/-- Sorted members with one set of names and values are the same. -/
theorem Sorted.eq_of_perm {members others : List (String × α)} (sorted : Sorted members)
    (sorted' : Sorted others) (perm : members.Perm others) : members = others := by
  have ascending {ms : List (String × α)} (h : Sorted ms) :
      ms.Pairwise fun m m' => m.1 < m'.1 := List.pairwise_map.mp h
  refine perm.eq_of_pairwise ?_ (ascending sorted) (ascending sorted')
  intro m m' _ _ less greater
  exact absurd greater (lt_asymm less)

theorem ofList_of_sorted {members : List (String × α)} (sorted : Sorted members) :
    ofList members = members :=
  (ofList_sorted members).eq_of_perm sorted (ofList_perm sorted.nodup)

/-! Finding a member. -/

@[simp] theorem lookup_cons (m : String × α) (members : List (String × α)) (key : String) :
    (m :: members).lookup key = if key = m.1 then some m.2 else members.lookup key := by
  obtain ⟨name, value⟩ := m
  by_cases same : key = name
  · simp [same]
  · simp [List.lookup_cons, beq_eq_false_iff_ne.mpr same, same]

theorem lookup_insert (name : String) (value : α) (members : List (String × α)) :
    (insert name value members).lookup name = some value := by
  induction members with
  | nil => simp [insert]
  | cons m members ih =>
      rw [insert]
      split
      · simp
      · split
        · simp
        · next different => rw [lookup_cons, if_neg different, ih]

theorem lookup_eq_some_iff {members : List (String × α)} (nodup : (names members).Nodup) :
    members.lookup name = some value ↔ (name, value) ∈ members := by
  induction members with
  | nil => simp
  | cons m members ih =>
      obtain ⟨n, v⟩ := m
      obtain ⟨fresh, rest⟩ := List.nodup_cons.mp nodup
      rw [lookup_cons, List.mem_cons, Prod.mk.injEq]
      by_cases same : name = n
      · subst same
        have absent : (name, value) ∉ members := fun member => fresh (mem_names_of_mem member)
        simp [absent, eq_comm]
      · simp [same, ih rest]

theorem lookup_perm {members others : List (String × α)} (nodup : (names members).Nodup)
    (perm : members.Perm others) (name : String) : members.lookup name = others.lookup name := by
  have nodup' := (names_perm perm).nodup_iff.mp nodup
  refine Option.ext fun value => ?_
  rw [lookup_eq_some_iff nodup, lookup_eq_some_iff nodup', perm.mem_iff]

theorem lookup_eq_none {members : List (String × α)} (fresh : name ∉ names members) :
    members.lookup name = none := by
  rw [List.lookup_eq_none_iff]
  intro m member
  have different : name ≠ m.1 := fun same => fresh (same ▸ List.mem_map_of_mem member)
  simpa using different

theorem lookup_filter {names : List String} (listed : name ∈ names) (members : List (String × α)) :
    (members.filter fun m => names.contains m.1).lookup name = members.lookup name := by
  induction members with
  | nil => rfl
  | cons m members ih =>
      rw [List.filter_cons, lookup_cons]
      by_cases same : name = m.1
      · subst same
        simp [listed, lookup_cons]
      · rw [if_neg same, ← ih]
        split
        · rw [lookup_cons, if_neg same]
        · rfl

end DidMessaging.Members
