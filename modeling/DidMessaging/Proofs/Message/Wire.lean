import DidMessaging.Message.Basic
import DidMessaging.Proofs.Message.Attachment
import DidMessaging.Proofs.Result

namespace DidMessaging.Message

open Json Json.Fields

/-- The values that a message holds are in the form that maps of members have. -/
structure Canonical (m : Message) : Prop where
  body : m.body.Canonical
  attachments : ∀ as ∈ m.attachments, ∀ a ∈ as, a.content.Canonical
  sorted : Members.Sorted m.extra
  extra : CanonicalMembers m.extra

/-! The members of a message. -/

theorem names_ownMembers_sublist (m : Message) :
    (Members.names m.ownMembers).Sublist reserved := by
  have upToBody := List.Sublist.refl ["id", "typ", "type", "body"]
  have upToPthid := upToBody.append (names_optional_sublist "from" .string m.sender)
    |>.append (names_optional_sublist "to" .strings m.recipients)
    |>.append (names_optional_sublist "thid" .string m.thid)
    |>.append (names_optional_sublist "pthid" .string m.pthid)
  have upToRotation := upToPthid.append
      (names_optional_sublist "created_time" (fun n => .number (.nat n)) m.createdTime)
    |>.append (names_optional_sublist "expires_time" (fun n => .number (.nat n)) m.expiresTime)
    |>.append (names_optional_sublist rotationName (·.json) m.rotation)
  have upToAck := upToRotation.append
      (names_optional_sublist "attachments" (fun as => .array (as.map (·.json))) m.attachments)
    |>.append (names_optional_sublist "please_ack" .bool m.pleaseAck)
    |>.append (names_optional_sublist "ack" .string m.ack)
  simp only [ownMembers, Members.names_append]
  exact upToAck

/-- The other headers of a message do not have the names of its own. -/
def Distinct (m : Message) : Prop :=
  ∀ name ∈ Members.names m.extra, name ∉ reserved

theorem nodup_members {m : Message} (distinct : m.Distinct) (sorted : Members.Sorted m.extra) :
    (Members.names (m.ownMembers ++ m.extra)).Nodup := by
  rw [Members.names_append]
  have ownNodup := m.names_ownMembers_sublist.nodup (by decide)
  refine List.nodup_append.mpr ⟨ownNodup, sorted.nodup, ?_⟩
  rintro name own _ extra rfl
  exact distinct name extra (m.names_ownMembers_sublist.subset own)

theorem members_eq (m : Message) :
    m.members = Members.ofList (sortedMembers (m.ownMembers ++ m.extra)) := by
  rw [sortedMembers_eq_map]
  rfl

theorem json_eq_sorted (m : Message) : m.json = (object (m.ownMembers ++ m.extra)).sorted := by
  rw [json, members_eq, sorted]

theorem canonical_json (m : Message) : m.json.Canonical :=
  m.json_eq_sorted ▸ canonical_sorted _

theorem members_sorted (m : Message) : Members.Sorted m.members :=
  Members.ofList_sorted _

theorem lookup_members {m : Message} (distinct : m.Distinct) (sorted : Members.Sorted m.extra)
    (listed : name ∈ reserved) :
    m.members.lookup name = (m.ownMembers.lookup name).map Json.sorted := by
  have notExtra : m.extra.lookup name = none :=
    Members.lookup_eq_none fun member => distinct name member listed
  rw [members_eq, lookup_sorted (nodup_members distinct sorted), List.lookup_append, notExtra,
    Option.or_none]

theorem members_perm {m : Message} (canonical : m.Canonical) (distinct : m.Distinct) :
    m.members.Perm (sortedMembers m.ownMembers ++ m.extra) := by
  have perm := sorted_object_perm (nodup_members distinct canonical.sorted)
  rw [sortedMembers_eq_map, List.map_append, ← sortedMembers_eq_map, ← sortedMembers_eq_map,
    sortedMembers_of_canonical canonical.extra] at perm
  rwa [members_eq, sortedMembers_eq_map, List.map_append, ← sortedMembers_eq_map,
    ← sortedMembers_eq_map, sortedMembers_of_canonical canonical.extra]

/-- The members of a message that are not its own are its other headers. -/
theorem filter_members {m : Message} (canonical : m.Canonical) (distinct : m.Distinct) :
    m.members.filter (fun m => !reserved.contains m.1) = m.extra := by
  have noOwn : (sortedMembers m.ownMembers).filter (fun m => !reserved.contains m.1) = [] := by
    rw [List.filter_eq_nil_iff]
    intro member own
    have name : member.1 ∈ Members.names m.ownMembers := by
      rw [← names_sortedMembers]
      exact List.mem_map_of_mem own
    simpa using m.names_ownMembers_sublist.subset name
  have allExtra : m.extra.filter (fun m => !reserved.contains m.1) = m.extra := by
    rw [List.filter_eq_self]
    intro member extra
    simpa using distinct member.1 (List.mem_map_of_mem extra)
  have perm := (members_perm canonical distinct).filter fun m => !reserved.contains m.1
  rw [List.filter_append, noOwn, allExtra, List.nil_append] at perm
  have sorted : Members.Sorted (m.members.filter fun m => !reserved.contains m.1) :=
    m.members_sorted.sublist (Members.names_sublist List.filter_sublist)
  exact sorted.eq_of_perm canonical.sorted perm

/-! Reading a message. -/

theorem tag?_typ (t : MediaType) :
    (Tree.ofJson (.string t.name)).tag? MediaType.named? = some t :=
  MediaType.named?_eq_some_iff.mpr rfl

theorem array_sorted_attachments (as : List Attachment) :
    (Json.array (as.map (·.json))).sorted = .array (as.map fun a => a.json.sorted) := by
  rw [Json.sorted, sortedItems_eq_map, List.map_map]
  rfl

theorem read?_json {m : Message} (canonical : m.Canonical) (distinct : m.Distinct)
    (noRotation : m.rotation = none)
    (notNull : ∀ as ∈ m.attachments, ∀ a ∈ as, a.content.jws ≠ some .null) :
    read? (.ofJson m.json) = some m := by
  obtain ⟨fields, opened, written⟩ := open?_ofJson reserved m.members_sorted.nodup
  have written : Written reserved (fun name => (m.ownMembers.lookup name).map Json.sorted)
      fields := by
    intro name listed
    rw [written name listed]
    exact congrArg (Option.map Tree.ofJson) (lookup_members distinct canonical.sorted listed)
  have id : fields.required? "id" (·.string?) = some m.id :=
    written.required?_string (by simp [reserved]) (by simp [ownMembers])
  have typ : fields.defaulted? "typ" .plain (·.tag? MediaType.named?) = some m.typ :=
    written.defaulted? (by simp [reserved]) (by simp [ownMembers]) (tag?_typ m.typ)
  have type : fields.required? "type" (·.string?) = some m.type :=
    written.required?_string (by simp [reserved]) (by simp [ownMembers])
  have body : fields.required? "body" (·.json?) = some m.body :=
    written.required? (by simp [reserved])
      (by simp [ownMembers, sorted_of_canonical canonical.body])
      (Tree.json?_ofJson_of_canonical canonical.body)
  have sender : fields.optional? "from" (·.string?) = some m.sender :=
    written.optional?_string (by simp [reserved])
      (by simp [ownMembers, rotationName, List.lookup_append, Function.comp_def])
  have recipients : fields.optional? "to" (·.strings?) = some m.recipients :=
    written.optional? (by simp [reserved])
      (by simp [ownMembers, rotationName, List.lookup_append, Function.comp_def])
      (fun ss _ => Tree.strings?_ofJson ss) (fun _ _ => by simp [strings])
  have thid : fields.optional? "thid" (·.string?) = some m.thid :=
    written.optional?_string (by simp [reserved])
      (by simp [ownMembers, rotationName, List.lookup_append, Function.comp_def])
  have pthid : fields.optional? "pthid" (·.string?) = some m.pthid :=
    written.optional?_string (by simp [reserved])
      (by simp [ownMembers, rotationName, List.lookup_append, Function.comp_def])
  have createdTime : fields.optional? "created_time" (·.nat?) = some m.createdTime :=
    written.optional?_nat (by simp [reserved])
      (by simp [ownMembers, rotationName, List.lookup_append, Function.comp_def])
  have expiresTime : fields.optional? "expires_time" (·.nat?) = some m.expiresTime :=
    written.optional?_nat (by simp [reserved])
      (by simp [ownMembers, rotationName, List.lookup_append, Function.comp_def])
  have rotation : fields.optional? rotationName Rotation.read? = some m.rotation := by
    rw [optional?, written rotationName (by simp [reserved, rotationName])]
    simp [ownMembers, noRotation, rotationName, List.lookup_append]
  have attachments : fields.optional? "attachments" (·.list? Attachment.read?) =
      some m.attachments := by
    refine written.optional? (g := fun as => .array (as.map fun a => a.json.sorted))
      (by simp [reserved]) ?_ (fun as member => ?_) (fun _ _ => by simp)
    · simp [ownMembers, rotationName, List.lookup_append, Function.comp_def,
        array_sorted_attachments]
    · exact Tree.list?_ofJson fun a attached =>
        a.read?_json (canonical.attachments as member a attached) (notNull as member a attached)
  have pleaseAck : fields.optional? "please_ack" (·.bool?) = some m.pleaseAck :=
    written.optional? (by simp [reserved])
      (by simp [ownMembers, rotationName, List.lookup_append, Function.comp_def])
      (fun b _ => Tree.bool?_ofJson b) (fun _ _ => by simp)
  have ack : fields.optional? "ack" (·.string?) = some m.ack :=
    written.optional?_string (by simp [reserved])
      (by simp [ownMembers, rotationName, List.lookup_append, Function.comp_def])
  rw [json, read?, opened, Option.bind_eq_bind, Option.bind_some]
  dsimp only
  rw [id, typ, type, body, sender, recipients, thid, pthid, createdTime, expiresTime, rotation,
    attachments, pleaseAck, ack, filter_members canonical distinct, mapM_ofMembers,
    sortedMembers_of_canonical canonical.extra]
  simp only [Option.bind_eq_bind, Option.bind_some, Members.ofList_of_sorted canonical.sorted,
    Option.pure_def]

/-! The rotation is set aside before a message is read. -/

theorem lookup_rotation_members {m : Message} (canonical : m.Canonical) (distinct : m.Distinct)
    (noRotation : m.rotation = none) : m.members.lookup rotationName = none := by
  rw [lookup_members distinct canonical.sorted (by simp [reserved, rotationName])]
  simp [ownMembers, noRotation, rotationName, List.lookup_append]

theorem ofWire_object_of_absent {members : Members} (absent : members.lookup rotationName = none)
    (read : read? (.ofJson (.object (members.filter (·.1 ≠ rotationName)))) = some m) :
    ofWire (.object members) = .ok (m, none) := by
  simp only [ofWire, Members.find?, absent]
  exact Result.bind_eq_ok_iff.mpr ⟨_, rfl, by simp only [read]; rfl⟩

theorem ofWire_json {m : Message} (canonical : m.Canonical) (distinct : m.Distinct)
    (noRotation : m.rotation = none)
    (notNull : ∀ as ∈ m.attachments, ∀ a ∈ as, a.content.jws ≠ some .null) :
    ofWire m.json = .ok (m, none) := by
  have absent := lookup_rotation_members canonical distinct noRotation
  have rest : m.members.filter (·.1 ≠ rotationName) = m.members := by
    rw [List.filter_eq_self]
    rintro ⟨name, j⟩ member
    have other := List.lookup_eq_none_iff.mp absent (name, j) member
    have different : name ≠ rotationName := fun same => by simp [same] at other
    exact decide_eq_true different
  refine ofWire_object_of_absent absent ?_
  rw [rest]
  exact read?_json canonical distinct noRotation notNull

theorem fields_of_read? {t : Tree} (read : read? t = some m) :
    ∃ fields others kept, open? reserved t = some (fields, others) ∧
      fields.optional? rotationName Rotation.read? = some m.rotation ∧
      fields.optional? "attachments" (·.list? Attachment.read?) = some m.attachments ∧
      others.mapM (fun m => m.2.json?.map (m.1, ·)) = some kept ∧
      m.extra = Members.ofList kept := by
  unfold read? at read
  obtain ⟨⟨fields, others⟩, opened, read⟩ := Option.bind_eq_some_iff.mp read
  obtain ⟨id, -, read⟩ := Option.bind_eq_some_iff.mp read
  obtain ⟨typ, -, read⟩ := Option.bind_eq_some_iff.mp read
  obtain ⟨type, -, read⟩ := Option.bind_eq_some_iff.mp read
  obtain ⟨body, -, read⟩ := Option.bind_eq_some_iff.mp read
  obtain ⟨sender, -, read⟩ := Option.bind_eq_some_iff.mp read
  obtain ⟨recipients, -, read⟩ := Option.bind_eq_some_iff.mp read
  obtain ⟨thid, -, read⟩ := Option.bind_eq_some_iff.mp read
  obtain ⟨pthid, -, read⟩ := Option.bind_eq_some_iff.mp read
  obtain ⟨createdTime, -, read⟩ := Option.bind_eq_some_iff.mp read
  obtain ⟨expiresTime, -, read⟩ := Option.bind_eq_some_iff.mp read
  obtain ⟨rotation, rotationRead, read⟩ := Option.bind_eq_some_iff.mp read
  obtain ⟨attachments, attachmentsRead, read⟩ := Option.bind_eq_some_iff.mp read
  obtain ⟨pleaseAck, -, read⟩ := Option.bind_eq_some_iff.mp read
  obtain ⟨ack, -, read⟩ := Option.bind_eq_some_iff.mp read
  obtain ⟨kept, extra, read⟩ := Option.bind_eq_some_iff.mp read
  obtain rfl := Option.some.inj read
  exact ⟨fields, others, kept, opened, rotationRead, attachmentsRead, extra, rfl⟩

theorem open?_eq_some {t : Tree} (opened : open? names t = some (fields, others)) :
    ∃ members, t.members? = some members ∧
      fields = (members.filter fun m => names.contains m.1) ∧
      others = members.filter fun m => !names.contains m.1 := by
  unfold open? at opened
  obtain ⟨members, read, opened⟩ := Option.bind_eq_some_iff.mp opened
  obtain ⟨known, knownFields, opened⟩ := Option.bind_eq_some_iff.mp opened
  obtain ⟨_, -, opened⟩ := Option.bind_eq_some_iff.mp opened
  obtain ⟨rfl, rfl⟩ := Prod.mk.inj (Option.some.inj opened)
  simp only [known?] at knownFields
  split at knownFields
  · exact ⟨members, read, (Option.some.inj knownFields).symm, rfl⟩
  · contradiction

theorem rotation_eq_none {value : Json}
    (read : read? (.ofJson value) = some m)
    (absent : ∀ members, value = .object members → members.lookup rotationName = none) :
    m.rotation = none := by
  obtain ⟨fields, others, -, opened, found, -⟩ := fields_of_read? read
  obtain ⟨members, membersRead, rfl, -⟩ := open?_eq_some opened
  cases value with
  | object members' =>
      rw [members?_ofJson] at membersRead
      obtain rfl := Option.some.inj membersRead
      rw [optional?, Members.lookup_filter (by simp [reserved, rotationName]), lookup_ofMembers,
        absent members' rfl] at found
      exact (Option.some.inj found).symm
  | _ => simp [Tree.ofJson, Tree.members?] at membersRead

theorem lookup_filter_rotation (members : Members) :
    (members.filter (·.1 ≠ rotationName)).lookup rotationName = none :=
  Members.lookup_eq_none (by simp [Members.names])

/-- What is read from the wire once the proof of a rotation is set aside. -/
def unproved : Json → Json
  | .object members => .object (members.filter (·.1 ≠ rotationName))
  | value => value

theorem ofWire_ne_ok (unread : read? (.ofJson (unproved value)) = none) :
    ofWire value ≠ .ok answer := by
  cases value with
  | object members =>
      rw [unproved] at unread
      simp only [ofWire]
      split <;> simp only [bind, Except.bind, unread] <;> exact Result.throw_ne_ok
  | _ =>
      simp only [unproved] at unread
      simp only [ofWire, bind, Except.bind, unread]
      exact Result.throw_ne_ok

theorem message_of_ofWire (read : read? (.ofJson (unproved value)) = some m')
    (received : ofWire value = .ok (m, proof)) : m' = m := by
  cases value with
  | object members =>
      rw [unproved] at read
      simp only [ofWire] at received
      split at received <;> simp_all [bind, Except.bind]
  | _ => simp_all [ofWire, unproved, bind, Except.bind]

theorem ofWire_sound (received : ofWire value = .ok (m, proof)) :
    read? (.ofJson (unproved value)) = some m := by
  cases read : read? (.ofJson (unproved value)) with
  | none => exact absurd received (ofWire_ne_ok read)
  | some m' => rw [message_of_ofWire read received]

theorem lookup_unproved {members : Members} (same : unproved value = .object members) :
    members.lookup rotationName = none := by
  cases value with
  | object all =>
      obtain rfl := Json.object.inj same
      exact lookup_filter_rotation all
  | _ => contradiction

/-- What is read from the wire has its rotation still to be proved. -/
theorem rotation_of_ofWire (received : ofWire value = .ok (m, proof)) : m.rotation = none :=
  rotation_eq_none (ofWire_sound received) fun _ => lookup_unproved

/-! Strings under other names than a message's own. -/

theorem mem_string_of_mem_members {m : Message} (listed : (name, .string s) ∈ m.members)
    (other : name ∉ reserved) : (name, .string s) ∈ m.extra := by
  obtain ⟨⟨_, j⟩, written, same⟩ := List.mem_map.mp (Members.mem_of_mem_ofList listed)
  obtain ⟨rfl, sorted⟩ := Prod.mk.inj same
  obtain rfl := sorted_eq_string_iff.mp sorted
  rcases List.mem_append.mp written with own | extra
  · exact absurd (m.names_ownMembers_sublist.subset (Members.mem_names_of_mem own)) other
  · exact extra

/-- What is kept of a text is in it. -/
theorem strings_of_ofWire (received : ofWire value = .ok (m, proof)) :
    ∃ members, value = .object members ∧
      ∀ name s, (name, .string s) ∈ m.extra → (name, .string s) ∈ members := by
  obtain ⟨fields, others, kept, opened, -, -, extra, same⟩ := fields_of_read? (ofWire_sound received)
  obtain ⟨members, read, -, rfl⟩ := open?_eq_some opened
  cases value with
  | object all =>
      rw [unproved, members?_ofJson] at read
      obtain rfl := Option.some.inj read
      rw [filter_ofMembers _ (!reserved.contains ·), mapM_ofMembers] at extra
      obtain rfl := Option.some.inj extra
      refine ⟨all, rfl, fun name s listed => ?_⟩
      rw [same, sortedMembers_eq_map] at listed
      obtain ⟨⟨_, j⟩, written, pair⟩ := List.mem_map.mp (Members.mem_of_mem_ofList listed)
      obtain ⟨rfl, sorted⟩ := Prod.mk.inj pair
      obtain rfl := sorted_eq_string_iff.mp sorted
      exact List.mem_of_mem_filter (List.mem_of_mem_filter written)
  | _ => simp [unproved, Tree.ofJson, Tree.members?] at read

end DidMessaging.Message
