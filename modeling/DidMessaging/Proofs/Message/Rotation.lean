import DidMessaging.Proofs.Envelope.Text
import DidMessaging.Proofs.Message.Wire

namespace DidMessaging

open Json Json.Fields

/-! The claims. -/

namespace Rotation

theorem read?_json (r : Rotation) : read? (.ofJson r.json) = some r := by
  obtain ⟨fields, read, written⟩ := read?_ofJson fieldNames 7
    ([("iss", .string r.iss), ("sub", .string r.sub)]
      ++ Json.optional "aud" .string r.aud ++ Json.optional "exp" seconds r.exp
      ++ Json.optional "nbf" seconds r.nbf ++ Json.optional "iat" seconds r.iat
      ++ Json.optional "jti" .string r.jti)
    (by cases r.aud <;> cases r.exp <;> cases r.nbf <;> cases r.iat <;> cases r.jti <;> simp)
  have iss : fields.required? "iss" (·.string?) = some r.iss :=
    written.required?_string (by simp [fieldNames]) (by simp)
  have sub : fields.required? "sub" (·.string?) = some r.sub :=
    written.required?_string (by simp [fieldNames]) (by simp)
  have aud : fields.optional? "aud" (·.string?) = some r.aud :=
    written.optional?_string (by simp [fieldNames]) (by simp [List.lookup_append])
  have exp : fields.optional? "exp" (·.nat?) = some r.exp :=
    written.optional?_nat (by simp [fieldNames]) (by simp [List.lookup_append]; rfl)
  have nbf : fields.optional? "nbf" (·.nat?) = some r.nbf :=
    written.optional?_nat (by simp [fieldNames]) (by simp [List.lookup_append]; rfl)
  have iat : fields.optional? "iat" (·.nat?) = some r.iat :=
    written.optional?_nat (by simp [fieldNames]) (by simp [List.lookup_append]; rfl)
  have jti : fields.optional? "jti" (·.string?) = some r.jti :=
    written.optional?_string (by simp [fieldNames]) (by simp [List.lookup_append])
  simp only [read?, json, read, iss, sub, aud, exp, nbf, iat, jti, Option.bind_eq_bind,
    Option.bind_some, Option.pure_def]

theorem legible_json (r : Rotation) : r.json.Legible 1 := by
  refine Legible.object fun m member => ?_
  simp only [List.mem_append, List.mem_cons, List.not_mem_nil, or_false, mem_optional] at member
  rcases member with (((((rfl | rfl) | ⟨aud, -, rfl⟩) | ⟨exp, -, rfl⟩) | ⟨nbf, -, rfl⟩) |
    ⟨iat, -, rfl⟩) | ⟨jti, -, rfl⟩ <;> exact ⟨trivial, Nat.le_refl 0⟩

end Rotation

namespace Message

/-! The members of the wire form. -/

theorem filter_optional {name other : String} (different : name ≠ other) (f : α → Json)
    (a : Option α) : (Json.optional name f a).filter (·.1 ≠ other) = Json.optional name f a := by
  refine List.filter_eq_self.mpr fun m member => ?_
  obtain ⟨x, -, rfl⟩ := mem_optional.mp member
  simpa using different

theorem filter_ownMembers (m : Message) :
    m.ownMembers.filter (·.1 ≠ rotationName) =
      ({ m with rotation := none } : Message).ownMembers := by
  have dropped : (Json.optional rotationName (·.json) m.rotation).filter (·.1 ≠ rotationName) =
      [] := by
    refine List.filter_eq_nil_iff.mpr fun member rotation => ?_
    obtain ⟨r, -, rfl⟩ := mem_optional.mp rotation
    simp
  have first : [("id", Json.string m.id), ("typ", .string m.typ.name), ("type", .string m.type),
      ("body", m.body)].filter (·.1 ≠ rotationName) = [("id", .string m.id),
        ("typ", .string m.typ.name), ("type", .string m.type), ("body", m.body)] := rfl
  have other {name : String} (different : name ≠ "from_prior") :
      name ≠ rotationName := different
  simp (disch := exact other (by decide)) only [ownMembers, List.filter_append, dropped, first,
    filter_optional]
  rfl

/-- Without the claims the members are those of the message without its rotation. -/
theorem filter_members_rotation {m : Message} (canonical : m.Canonical) (distinct : m.Distinct) :
    m.members.filter (·.1 ≠ rotationName) = ({ m with rotation := none } : Message).members := by
  have canonical' : ({ m with rotation := none } : Message).Canonical :=
    ⟨canonical.body, canonical.attachments, canonical.sorted, canonical.extra⟩
  have own : (sortedMembers m.ownMembers).filter (·.1 ≠ rotationName) =
      sortedMembers ({ m with rotation := none } : Message).ownMembers := by
    rw [← filter_ownMembers, sortedMembers_eq_map, sortedMembers_eq_map, List.filter_map]
    rfl
  have extra : m.extra.filter (·.1 ≠ rotationName) = m.extra := by
    refine List.filter_eq_self.mpr fun member listed => ?_
    have other := distinct member.1 (List.mem_map_of_mem listed)
    have different : member.1 ≠ rotationName := fun same =>
      other (same ▸ by simp [reserved, rotationName])
    simpa using different
  have perm := (members_perm canonical distinct).filter (·.1 ≠ rotationName)
  rw [List.filter_append, own, extra] at perm
  have sorted : Members.Sorted (m.members.filter (·.1 ≠ rotationName)) :=
    m.members_sorted.sublist (Members.names_sublist List.filter_sublist)
  exact sorted.eq_of_perm (members_sorted _)
    (perm.trans (members_perm canonical' distinct).symm)

theorem ofWire_object_of_jwt {members : Members}
    (found : members.lookup rotationName = some (.string jwt))
    (read : read? (.ofJson (.object (members.filter (·.1 ≠ rotationName)))) = some m) :
    ofWire (.object members) = .ok (m, some jwt) := by
  simp only [ofWire, Members.find?, found]
  exact Result.bind_eq_ok_iff.mpr ⟨_, rfl, by simp only [read]; rfl⟩

/-- What is received is the message without its rotation, and the text that is to prove it. -/
theorem ofWire_wire {m : Message} (canonical : m.Canonical) (distinct : m.Distinct)
    (notNull : ∀ as ∈ m.attachments, ∀ a ∈ as, a.content.jws ≠ some .null) (jwt : String) :
    ofWire (m.wire (some jwt)) = .ok ({ m with rotation := none }, some jwt) := by
  have canonical' : ({ m with rotation := none } : Message).Canonical :=
    ⟨canonical.body, canonical.attachments, canonical.sorted, canonical.extra⟩
  refine ofWire_object_of_jwt (Members.lookup_insert _ _ _) ?_
  rw [Members.filter_insert, filter_members_rotation canonical distinct]
  exact read?_json canonical' distinct rfl notNull

theorem proof_of_ofWire {members : Members} (nodup : (Members.names members).Nodup)
    (received : ofWire (.object members) = .ok (m, proof))
    (here : (rotationName, .string jwt) ∈ members) : proof = some jwt := by
  have found : members.lookup rotationName = some (.string jwt) :=
    (Members.lookup_eq_some_iff nodup).mpr here
  have read := ofWire_sound received
  have again := ofWire_object_of_jwt found read
  exact (Prod.mk.inj (Except.ok.inj (received.symm.trans again))).2

/-- The strings in the wire form that are none of the message's own are in its other headers. -/
theorem exists_wire_members (m : Message) (proof : Option String) :
    ∃ members, m.wire proof = .object members ∧ (Members.names members).Nodup ∧
      (∀ jwt ∈ proof, (rotationName, .string jwt) ∈ members) ∧
      ∀ name s, name ∉ reserved → (name, .string s) ∈ members → (name, .string s) ∈ m.extra := by
  cases proof with
  | none =>
      exact ⟨m.members, rfl, m.members_sorted.nodup, nofun,
        fun name s other listed => mem_string_of_mem_members listed other⟩
  | some jwt =>
      have nodup := (Members.insert_sorted m.members_sorted rotationName (.string jwt)).nodup
      refine ⟨_, rfl, nodup, ?_, fun name s other listed => ?_⟩
      · rintro _ ⟨⟩
        exact (Members.lookup_eq_some_iff nodup).mp (Members.lookup_insert _ _ _)
      · rcases Members.mem_insert listed with own | old
        · obtain ⟨rfl, -⟩ := Prod.mk.inj own
          exact absurd (by decide) other
        · exact mem_string_of_mem_members old other

/-! The text of the wire form. -/

theorem canonical_wire (m : Message) (jwt : String) : (m.wire (some jwt)).Canonical := by
  have canonical := m.canonical_json
  rw [json, Json.Canonical, canonicalMembers_iff] at canonical
  rw [wire, Json.Canonical, canonicalMembers_iff]
  refine ⟨Members.insert_sorted canonical.1 _ _, fun member listed => ?_⟩
  rcases Members.mem_insert listed with rfl | old
  · trivial
  · exact canonical.2 member old

/-- There is room for the wire form where there is for each of its members, and one level more. -/
theorem legible_wire {m : Message} (each : ∀ member ∈ m.ownMembers ++ m.extra,
    member.2.Legible room) (jwt : String) : (m.wire (some jwt)).Legible (room + 1) := by
  refine Legible.object fun member listed => ?_
  rcases Members.mem_insert listed with rfl | old
  · exact ⟨trivial, Nat.zero_le _⟩
  · obtain ⟨own, ownListed, rfl⟩ := List.mem_map.mp (Members.mem_of_mem_ofList old)
    exact (each own ownListed).sorted

end Message

end DidMessaging
