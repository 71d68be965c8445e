import DidMessaging.Agent.Packing
import DidMessaging.Proofs.Agent.Unpacking
import DidMessaging.Proofs.Json.Reading

namespace DidMessaging

open Result

namespace Message

theorem distinct_of_validate {m : Message} (valid : m.validate = .ok ()) : m.Distinct := by
  unfold validate at valid
  simp only [ite_throw_eq_ok_iff] at valid
  obtain ⟨-, -, valid⟩ := valid
  cases found : (Members.names m.extra).find? (reserved.contains ·) with
  | none =>
      intro name extra listed
      exact List.find?_eq_none.mp found name extra (List.contains_iff_mem.mpr listed)
  | some name =>
      cases sender : m.sender with
      | none =>
          simp only [sender, found] at valid
          obtain ⟨-, valid⟩ := check_bind_eq_ok_iff.mp valid
          exact absurd valid throw_bind_ne_ok
      | some s =>
          simp only [sender, found] at valid
          obtain ⟨-, valid⟩ := check_bind_eq_ok_iff.mp valid
          obtain ⟨-, valid⟩ := check_bind_eq_ok_iff.mp valid
          exact absurd valid throw_bind_ne_ok

theorem read?_text {m : Message} (legible : m.json.Legible Json.Tree.deepest) :
    Json.read? m.json.text = some (.object m.members) :=
  legible.read?_text m.canonical_json

theorem mem_names_members {m : Message} (distinct : m.Distinct) (sorted : Members.Sorted m.extra)
    (other : name ∉ reserved) :
    name ∈ Members.names m.members ↔ name ∈ Members.names m.extra := by
  have perm := Json.sorted_object_perm (nodup_members distinct sorted)
  have notOwn : name ∉ Members.names m.ownMembers := fun own =>
    other (m.names_ownMembers_sublist.subset own)
  rw [members_eq, (Members.names_perm perm).mem_iff, Json.names_sortedMembers,
    Members.names_append, List.mem_append]
  simp [notOwn]

/-- No header of the message is one by which a receiver knows an envelope. -/
def Plain (m : Message) : Prop :=
  "recipients" ∉ Members.names m.extra ∧ "signatures" ∉ Members.names m.extra

end Message

theorem Stack.eq_empty_of_metadata {s : Stack} {kid jwt kid' jwt' : Option String}
    (metadata : { s.metadata with rotationKid := kid, rotationJwt := jwt } =
      ({ rotationKid := kid', rotationJwt := jwt' } : Metadata)) :
    s = {} := by
  obtain ⟨forwards, anon, auth, signed⟩ := s
  have noForwards : (!forwards.isEmpty) = false := congrArg Metadata.reWrapped metadata
  have noAnon : anon.isSome = false := congrArg Metadata.anonymousSender metadata
  have noAuth : (auth.map (·.1)).isSome = false :=
    congrArg (fun d => d.authAlgorithm.isSome) metadata
  have noSigned : signed.isSome = false := congrArg Metadata.nonRepudiation metadata
  rw [Option.isSome_map] at noAuth
  simp_all

namespace Agent

theorem packPlaintext_of_noRotation (a : Agent) {m : Message} (valid : m.validate = .ok ())
    (noRotation : m.rotation = none) (kid : Option String) :
    a.packPlaintext m kid = .ok ⟨m.json.text, none⟩ := by
  unfold packPlaintext plaintext proofFor
  rw [noRotation, valid]
  rfl

theorem unpack_plain {a : Agent} {options : UnpackOptions}
    (received : Envelope.ofText text = .ok (.plain value))
    (read : Message.ofWire value = .ok (m, none)) :
    a.unpack text options = .ok ⟨m, {}⟩ := by
  have nested : Nested a options text ({} : Stack).layers value := .plain received
  have unwrapped := unwrap_complete nested read (Nat.succ_pos _)
  exact unpack_eq_ok_iff.mpr ⟨_, unwrapped, rfl, by simp, by simp⟩

/-- A text that is unpacked without a word on envelopes is the plaintext of the message. -/
theorem plain_of_unpack {a : Agent} {options : UnpackOptions} {kid jwt : Option String}
    (unpacked : a.unpack text options = .ok ⟨m, { rotationKid := kid, rotationJwt := jwt }⟩) :
    ∃ value, Envelope.ofText text = .ok (.plain value) ∧
      Message.ofWire value = .ok ({ m with rotation := none }, jwt) := by
  obtain ⟨w, unwrapped, settled, -, -⟩ := unpack_eq_ok_iff.mp unpacked
  obtain ⟨s, value, layers, nested, read⟩ := unwrap_sound unwrapped
  obtain ⟨⟨kid', metadata⟩, message⟩ :=
    settleRotation_frame layers (Message.rotation_of_ofWire read) settled
  obtain rfl : jwt = w.proof := congrArg Metadata.rotationJwt metadata
  obtain rfl := Stack.eq_empty_of_metadata metadata.symm
  cases nested with
  | plain received => exact ⟨value, received, message ▸ read⟩

/-- What is unpacked from a plaintext message is what that reads as, but for the rotation. -/
theorem read_of_unpack {a : Agent} {options : UnpackOptions}
    (received : Envelope.ofText text = .ok (.plain value))
    (unpacked : a.unpack text options = .ok ⟨m, d⟩) :
    Message.ofWire value = .ok ({ m with rotation := none }, d.rotationJwt) := by
  obtain ⟨w, unwrapped, settled, -, -⟩ := unpack_eq_ok_iff.mp unpacked
  obtain ⟨s, value', layers, nested, read⟩ := unwrap_sound unwrapped
  obtain ⟨⟨kid, metadata⟩, message⟩ :=
    settleRotation_frame layers (Message.rotation_of_ofWire read) settled
  obtain ⟨-, rfl⟩ := nested.unique (.plain received)
  have proof : w.proof = d.rotationJwt := (congrArg Metadata.rotationJwt metadata).symm
  rw [read, ← proof, ← message]

/-- The text of a message without a header of an envelope is received as that message. -/
theorem received_json {m : Message} (canonical : m.Canonical) (distinct : m.Distinct)
    (noRotation : m.rotation = none) (legible : m.json.Legible Json.Tree.deepest)
    (notNull : ∀ as ∈ m.attachments, ∀ a ∈ as, a.content.jws ≠ some .null) (plain : m.Plain) :
    Envelope.ofText m.json.text = .ok (.plain m.json) ∧ Message.ofWire m.json = .ok (m, none) := by
  obtain ⟨notEncrypted, notSigned⟩ := plain
  have read := Message.read?_text legible
  refine ⟨(Envelope.plain_of_ofText read).mpr ⟨?_, ?_, rfl⟩,
    Message.ofWire_json canonical distinct noRotation notNull⟩
  · exact mt (Message.mem_names_members distinct canonical.sorted (by decide)).mp notEncrypted
  · exact mt (Message.mem_names_members distinct canonical.sorted (by decide)).mp notSigned

/-- A message without a header of an envelope comes back from its text. -/
theorem unpack_json {b : Agent} {options : UnpackOptions} {m : Message} (canonical : m.Canonical)
    (distinct : m.Distinct) (noRotation : m.rotation = none)
    (legible : m.json.Legible Json.Tree.deepest)
    (notNull : ∀ as ∈ m.attachments, ∀ a ∈ as, a.content.jws ≠ some .null) (plain : m.Plain) :
    b.unpack m.json.text options = .ok ⟨m, {}⟩ := by
  obtain ⟨received, read⟩ := received_json canonical distinct noRotation legible notNull plain
  exact unpack_plain received read

/-- A message from one party to another, with another header. -/
def invitation : Message where
  id := "1"
  type := "invitation"
  body := .object [("at", .number (.nat 12))]
  sender := some "did:example:alice"
  recipients := some ["did:example:bob"]
  extra := [("urgent", .bool true)]

theorem json_invitation : invitation.json = .object [("body", .object [("at", .number (.nat 12))]),
    ("from", .string "did:example:alice"), ("id", .string "1"),
    ("to", .array [.string "did:example:bob"]), ("typ", .string "application/didcomm-plain+json"),
    ("type", .string "invitation"), ("urgent", .bool true)] := rfl

theorem canonical_invitation : invitation.Canonical := by
  constructor <;> simp [invitation, Json.Canonical, Json.CanonicalMembers, Members.Sorted,
    Members.names]

theorem legible_invitation : invitation.json.Legible 2 := by
  rw [json_invitation]
  constructor
  · simp [Json.Whole, Json.WholeMembers, Json.WholeItems, Number.Whole]
  · simp [Json.depth, Json.membersDepth, Json.itemsDepth]

theorem legible_invitation_deepest : invitation.json.Legible Json.Tree.deepest :=
  legible_invitation.mono (by decide)

/-- An agent without keys, who knows nobody. -/
def stranger : Agent := ⟨.ofDocuments [], .ofSecrets []⟩

/-- A message without a rotation that may be sent is packed in the clear, and unpacks as it was with
nothing said about it, exactly when it has no header that makes a receiver take it for an
envelope. -/
theorem packPlaintext_unpack (a : Agent) {m : Message} (kid : Option String)
    (noRotation : m.rotation = none) (valid : m.validate = .ok ()) (canonical : m.Canonical)
    (whole : m.json.Whole) (deep : m.json.depth ≤ Json.Tree.deepest)
    (notNull : ∀ as ∈ m.attachments, ∀ a ∈ as, a.content.jws ≠ some .null) :
    ∃ packed, a.packPlaintext m kid = .ok packed ∧ packed.rotationKid = none ∧
      ∀ (b : Agent) (options : UnpackOptions),
        b.unpack packed.text options = .ok ⟨m, {}⟩ ↔ m.Plain := by
  have distinct := Message.distinct_of_validate valid
  have legible : m.json.Legible Json.Tree.deepest := ⟨whole, deep⟩
  refine ⟨_, packPlaintext_of_noRotation a valid noRotation kid, rfl, fun b options => ?_⟩
  constructor
  · intro unpacked
    obtain ⟨value, received, -⟩ := plain_of_unpack unpacked
    obtain ⟨notEncrypted, notSigned, -⟩ :=
      (Envelope.plain_of_ofText (Message.read?_text legible)).mp received
    exact ⟨mt (Message.mem_names_members distinct canonical.sorted (by decide)).mpr notEncrypted,
      mt (Message.mem_names_members distinct canonical.sorted (by decide)).mpr notSigned⟩
  · exact unpack_json canonical distinct noRotation legible notNull

theorem packPlaintext_unpack_invitation :
    ∃ packed, stranger.packPlaintext invitation none = .ok packed ∧
      stranger.unpack packed.text {} = .ok ⟨invitation, {}⟩ := by
  obtain ⟨packed, packs, -, unpacks⟩ := packPlaintext_unpack stranger none rfl (by rfl)
    canonical_invitation legible_invitation_deepest.whole legible_invitation_deepest.deep
    (by simp [invitation])
  refine ⟨packed, packs, (unpacks stranger {}).mpr ?_⟩
  simp [Message.Plain, invitation]

end Agent

end DidMessaging
