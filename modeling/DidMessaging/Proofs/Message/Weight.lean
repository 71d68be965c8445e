import DidMessaging.Agent.Forward
import DidMessaging.Proofs.Json.Weight
import DidMessaging.Proofs.Message.Wire
import DidMessaging.Proofs.Text.Radix
import Mathlib.Algebra.Order.BigOperators.Group.List

namespace DidMessaging

namespace Json

/-! Members in a map. -/

@[simp] theorem membersWeight_cons (m : String × Json) (members : Members) :
    membersWeight (m :: members) = stringWeight m.1 + m.2.weight + membersWeight members := rfl

theorem stringWeight_le_of_mem_names {members : Members} (member : name ∈ Members.names members) :
    stringWeight name ≤ membersWeight members := by
  induction members with
  | nil => contradiction
  | cons m members ih =>
      rw [membersWeight_cons]
      rcases List.mem_cons.mp member with rfl | later
      · omega
      · exact Nat.le_add_left_of_le (ih later)

theorem membersWeight_eq_sum (members : Members) :
    membersWeight members = (members.map fun m => stringWeight m.1 + m.2.weight).sum := by
  induction members with
  | nil => rfl
  | cons m members ih => rw [membersWeight_cons, ih, List.map_cons, List.sum_cons]

theorem membersWeight_le_of_subset {part members : Members} (nodup : (Members.names part).Nodup)
    (subset : part ⊆ members) : membersWeight part ≤ membersWeight members := by
  obtain ⟨others, perm, sublist⟩ :=
    List.subperm_of_subset (List.Nodup.of_map Prod.fst nodup) subset
  rw [membersWeight_eq_sum, membersWeight_eq_sum, ← (perm.map _).sum_nat]
  exact (sublist.map _).sum_le_sum fun n _ => Nat.zero_le n

theorem membersWeight_insert_le (name : String) (j : Json) (members : Members) :
    membersWeight (Members.insert name j members) ≤
      stringWeight name + j.weight + membersWeight members := by
  induction members with
  | nil => exact Nat.le_refl _
  | cons m members ih =>
      obtain ⟨n, v⟩ := m
      rw [Members.insert]
      split
      · exact Nat.le_refl _
      · split
        · simp only [membersWeight_cons]
          omega
        · simp only [membersWeight_cons]
          omega

theorem membersWeight_foldl_insert_le (members map : Members) :
    membersWeight (members.foldl (fun map m => Members.insert m.1 m.2 map) map) ≤
      membersWeight members + membersWeight map := by
  induction members generalizing map with
  | nil => exact Nat.le_add_left _ _
  | cons m members ih =>
      have rest := ih (Members.insert m.1 m.2 map)
      have first := membersWeight_insert_le m.1 m.2 map
      rw [List.foldl_cons, membersWeight_cons]
      omega

theorem membersWeight_filter_le (keep : String × Json → Bool) (members : Members) :
    membersWeight (members.filter keep) ≤ membersWeight members := by
  induction members with
  | nil => exact Nat.le_refl _
  | cons m members ih =>
      rw [List.filter_cons, membersWeight_cons]
      split
      · rw [membersWeight_cons]
        omega
      · omega

namespace Tree

mutual

theorem weight_of_json? : ∀ {t : Tree} {j : Json}, t.json? = some j → j.weight ≤ t.weight
  | .illegible, _, value => by simp [json?] at value
  | .null, _, value | .bool _, _, value | .number _, _, value | .string _, _, value => by
      obtain rfl := Option.some.inj value
      simp [Json.weight, weight]
  | .array items, _, value => by
      obtain ⟨js, values, rfl⟩ := Option.map_eq_some_iff.mp value
      exact weight_of_jsonItems? values
  | .object members, _, value => by
      obtain ⟨ms, values, rfl⟩ := Option.map_eq_some_iff.mp value
      exact (membersWeight_foldl_insert_le ms []).trans (weight_of_jsonMembers? values)

theorem weight_of_jsonItems? : ∀ {items : List Tree} {js : List Json},
    jsonItems? items = some js → Json.itemsWeight js ≤ itemsWeight items
  | [], _, values => by
      obtain rfl := Option.some.inj values
      exact Nat.le_refl _
  | t :: items, _, values => by
      obtain ⟨j, value, values⟩ := Option.bind_eq_some_iff.mp values
      obtain ⟨js, rest, rfl⟩ := Option.map_eq_some_iff.mp values
      exact Nat.add_le_add (weight_of_json? value) (weight_of_jsonItems? rest)

theorem weight_of_jsonMembers? : ∀ {members : List (Option String × Tree)} {ms : Members},
    jsonMembers? members = some ms → Json.membersWeight ms ≤ membersWeight members
  | [], _, values => by
      obtain rfl := Option.some.inj values
      exact Nat.le_refl _
  | (name, t) :: members, _, values => by
      obtain ⟨name, rfl, named⟩ := Option.bind_eq_some_iff.mp values
      obtain ⟨j, value, more⟩ := Option.bind_eq_some_iff.mp named
      obtain ⟨ms, rest, rfl⟩ := Option.map_eq_some_iff.mp more
      exact Nat.add_le_add (Nat.add_le_add_left (weight_of_json? value) _)
        (weight_of_jsonMembers? rest)

end

mutual

theorem weight_ofJson : ∀ j : Json, (ofJson j).weight = j.weight
  | .null | .bool _ | .number _ | .string _ => by simp [ofJson, weight, Json.weight]
  | .array items => weight_ofItems items
  | .object members => weight_ofMembers members

theorem weight_ofItems : ∀ items : List Json, itemsWeight (ofItems items) = Json.itemsWeight items
  | [] => rfl
  | j :: items => congr (congrArg _ (weight_ofJson j)) (weight_ofItems items)

theorem weight_ofMembers : ∀ members : Members,
    membersWeight (ofMembers members) = Json.membersWeight members
  | [] => rfl
  | (_, j) :: members =>
      congr (congrArg _ (congrArg _ (weight_ofJson j))) (weight_ofMembers members)

end

end Tree

/-! The fields of a record. -/

namespace Fields

def weight (fields : Fields) : Nat :=
  (fields.map fun f => f.2.weight).sum

@[simp] theorem weight_nil : weight [] = 0 := rfl

@[simp] theorem weight_cons (f : String × Tree) (fields : Fields) :
    weight (f :: fields) = f.2.weight + weight fields := by
  simp [weight]

theorem weight_filter_le (keep : String × Tree → Bool) (fields : Fields) :
    weight (fields.filter keep) ≤ fields.weight := by
  induction fields with
  | nil => exact Nat.le_refl _
  | cons f fields ih =>
      rw [List.filter_cons, weight_cons]
      split
      · rw [weight_cons]
        omega
      · omega

theorem weight_zip_le (names : List String) (items : List Tree) :
    weight (names.zip items) ≤ Tree.itemsWeight items := by
  induction items generalizing names with
  | nil => simp [Tree.itemsWeight]
  | cons t items ih =>
      cases names with
      | nil => exact Nat.zero_le _
      | cons name names =>
          have rest := ih names
          rw [List.zip_cons_cons, weight_cons, Tree.itemsWeight]
          exact Nat.add_le_add_left rest _

theorem weight_of_members? {t : Tree} (found : t.members? = some fields) :
    weight fields ≤ t.weight := by
  cases t with
  | object members =>
      have each := Optional.mapM_eq_some_iff.mp found
      rw [Tree.weight]
      clear found
      induction each with
      | nil => exact Nat.le_refl _
      | @cons m f members fields head _ ih =>
          obtain ⟨name, -, rfl⟩ := Option.map_eq_some_iff.mp head
          rw [weight_cons, Tree.membersWeight.eq_def]
          dsimp only
          omega
  | _ => simp [Tree.members?] at found

theorem weight_of_known? (found : known? names members = some fields) :
    weight fields ≤ weight members := by
  unfold known? at found
  dsimp only at found
  split at found
  · obtain rfl := Option.some.inj found
    exact weight_filter_le _ members
  · contradiction

theorem weight_of_read? {t : Tree} (read : read? names least t = some fields) :
    weight fields ≤ t.weight := by
  unfold read? at read
  split at read
  · split at read
    · obtain rfl := Option.some.inj read
      exact weight_zip_le names _
    · contradiction
  · obtain ⟨members, found, known⟩ := Option.bind_eq_some_iff.mp read
    exact (weight_of_known? known).trans (weight_of_members? found)

theorem weight_of_open? {t : Tree} (opened : open? names t = some (fields, others)) :
    weight fields ≤ t.weight := by
  simp only [open?, Option.bind_eq_bind, Option.bind_eq_some_iff, Option.guard_eq_some',
    Option.pure_def, Option.some.injEq, Prod.mk.injEq] at opened
  obtain ⟨members, found, known, knownFound, -, -, rfl, -⟩ := opened
  exact (weight_of_known? knownFound).trans (weight_of_members? found)

theorem weight_of_lookup {fields : Fields} (found : fields.lookup name = some t) :
    t.weight ≤ weight fields := by
  induction fields with
  | nil => contradiction
  | cons f fields ih =>
      rw [List.lookup_cons] at found
      rw [weight_cons]
      split at found
      · obtain rfl := Option.some.inj found
        exact Nat.le_add_right _ _
      · exact Nat.le_add_left_of_le (ih found)

/-- Two fields together weigh no more than all. -/
theorem weight_of_lookups {fields : Fields} (found : fields.lookup name = some t)
    (found' : fields.lookup name' = some t') (distinct : name ≠ name') :
    t.weight + t'.weight ≤ weight fields := by
  induction fields with
  | nil => contradiction
  | cons f fields ih =>
      rw [List.lookup_cons] at found found'
      rw [weight_cons]
      split at found
      · next first =>
          obtain rfl := Option.some.inj found
          split at found'
          · next first' => exact absurd ((eq_of_beq first).trans (eq_of_beq first').symm) distinct
          · exact Nat.add_le_add_left (weight_of_lookup found') _
      · split at found'
        · obtain rfl := Option.some.inj found'
          rw [Nat.add_comm]
          exact Nat.add_le_add_left (weight_of_lookup found) _
        · exact Nat.le_add_left_of_le (ih found found')

theorem weight_of_required? {fields : Fields} (read : fields.required? name f = some a) :
    ∃ t, f t = some a ∧ t.weight ≤ weight fields := by
  obtain ⟨t, found, value⟩ := Option.bind_eq_some_iff.mp read
  exact ⟨t, value, weight_of_lookup found⟩

end Fields

theorem Tree.weight_of_string? {t : Tree} (read : t.string? = some s) :
    t.weight = stringWeight s := by
  cases t with
  | string => exact congrArg stringWeight (Option.some.inj read)
  | _ => simp [string?] at read

end Json

open Json

/-! What is attached. -/

namespace Attachment

theorem Content.weight_of_carried {t : Tree} {a : Attachment}
    (read : Content.read? t = some a.content) (carries : Forward.carriedBy? a = some carried) :
    carried.weight ≤ t.weight := by
  simp only [Content.read?, Option.bind_eq_bind, Option.bind_eq_some_iff,
    Option.guard_eq_some'] at read
  obtain ⟨_, -, read⟩ := read
  unfold Forward.carriedBy? at carries
  rcases Option.or_eq_some_iff.mp read with read | ⟨-, read⟩
  · rcases Option.or_eq_some_iff.mp read with read | ⟨-, read⟩
    · simp only [readLinks?, Option.bind_eq_bind, Option.bind_eq_some_iff, Option.pure_def,
        Option.some.injEq] at read
      obtain ⟨-, -, links, -, hash, -, jws, -, content⟩ := read
      simp [← content] at carries
    · simp only [readBase64?, Option.bind_eq_bind, Option.bind_eq_some_iff, Option.pure_def,
        Option.some.injEq] at read
      obtain ⟨fields, fieldsRead, text, textRead, hash, -, jws, -, content⟩ := read
      rw [← content] at carries
      obtain ⟨bytes, decoded, carries⟩ := Option.bind_eq_some_iff.mp carries
      obtain ⟨inner, innerRead, value⟩ := Option.bind_eq_some_iff.mp carries
      obtain ⟨field, fieldRead, fieldWeight⟩ := Fields.weight_of_required? textRead
      have bits := Base64Url.length_of_decode? decoded
      have octets := Utf8.length_encode_ge text
      have fieldIs : field.weight = (Utf8.encode text).length := Tree.weight_of_string? fieldRead
      have fieldsWeight := Fields.weight_of_read? fieldsRead
      calc carried.weight ≤ inner.weight := Tree.weight_of_json? value
        _ ≤ bytes.length := Tree.weight_of_readBytes? innerRead
        _ ≤ t.weight := by omega
  · simp only [readJson?, Option.bind_eq_bind, Option.bind_eq_some_iff, Option.pure_def,
      Option.some.injEq] at read
    obtain ⟨fields, fieldsRead, value, valueRead, hash, -, jws, -, content⟩ := read
    rw [← content] at carries
    obtain rfl := Option.some.inj carries
    obtain ⟨field, fieldRead, fieldWeight⟩ := Fields.weight_of_required? valueRead
    calc value.weight ≤ field.weight := Tree.weight_of_json? fieldRead
      _ ≤ fields.weight := fieldWeight
      _ ≤ t.weight := Fields.weight_of_read? fieldsRead

theorem weight_of_carried {t : Tree} {a : Attachment} (read : Attachment.read? t = some a)
    (carries : Forward.carriedBy? a = some carried) : carried.weight ≤ t.weight := by
  simp only [read?, Option.bind_eq_bind, Option.bind_eq_some_iff, Option.pure_def,
    Option.some.injEq] at read
  obtain ⟨fields, fieldsRead, id, -, content, contentRead, description, -, filename, -, mediaType,
    -, format, -, lastmodTime, -, byteCount, -, rfl⟩ := read
  obtain ⟨field, fieldRead, fieldWeight⟩ := Fields.weight_of_required? contentRead
  calc carried.weight ≤ field.weight := Content.weight_of_carried fieldRead carries
    _ ≤ fields.weight := fieldWeight
    _ ≤ t.weight := Fields.weight_of_read? fieldsRead

end Attachment

theorem Json.Tree.weight_of_list? {f : Tree → Option α} {t : Tree} (read : t.list? f = some as)
    (member : a ∈ as) : ∃ item, f item = some a ∧ item.weight ≤ t.weight := by
  cases t with
  | array items =>
      have each := Optional.mapM_eq_some_iff.mp read
      rw [weight]
      clear read
      induction each with
      | nil => contradiction
      | @cons item a items as head _ ih =>
          rw [itemsWeight]
          rcases List.mem_cons.mp member with rfl | later
          · exact ⟨item, head, Nat.le_add_right _ _⟩
          · obtain ⟨found, value, lighter⟩ := ih later
            exact ⟨found, value, Nat.le_add_left_of_le lighter⟩
  | _ => simp [list?] at read

namespace Message

theorem weight_of_attachment {t : Tree} {m : Message} (read : Message.read? t = some m)
    (attached : m.attachments = some as) (member : a ∈ as)
    (carries : Forward.carriedBy? a = some carried) : carried.weight ≤ t.weight := by
  obtain ⟨fields, others, -, opened, -, attachmentsRead, -⟩ := fields_of_read? read
  rw [attached] at attachmentsRead
  unfold Fields.optional? at attachmentsRead
  split at attachmentsRead
  · simp at attachmentsRead
  · next field found =>
      have list : field.list? Attachment.read? = some as := by
        unfold Tree.optional? at attachmentsRead
        split at attachmentsRead
        · simp at attachmentsRead
        · simpa using attachmentsRead
      obtain ⟨item, itemRead, lighter⟩ := Tree.weight_of_list? list member
      calc carried.weight ≤ item.weight := Attachment.weight_of_carried itemRead carries
        _ ≤ field.weight := lighter
        _ ≤ Fields.weight fields := Fields.weight_of_lookup found
        _ ≤ t.weight := Fields.weight_of_open? opened

theorem weight_unproved_le (value : Json) : (unproved value).weight ≤ value.weight := by
  cases value with
  | object members => exact membersWeight_filter_le _ members
  | _ => exact Nat.le_refl _

end Message

/-- Neither reading a forward message nor decoding its attachment adds to the weight. -/
theorem Forward.weight_of_ofMessage? {value : Json}
    (received : Message.ofWire value = .ok (m, proof))
    (forward : Forward.ofMessage? m = some f) : f.carried.weight ≤ value.weight := by
  simp only [ofMessage?, Option.bind_eq_bind, Option.bind_eq_some_iff,
    Option.guard_eq_some'] at forward
  obtain ⟨_, -, next, -, forward⟩ := forward
  split at forward
  · next a attached =>
      obtain ⟨carried, carries, forward⟩ := Option.bind_eq_some_iff.mp forward
      obtain rfl := Option.some.inj forward
      have lighter := Message.weight_of_attachment (Message.ofWire_sound received) attached
        (List.mem_singleton_self a) carries
      rw [Tree.weight_ofJson] at lighter
      exact lighter.trans (Message.weight_unproved_le value)
  · contradiction

end DidMessaging
