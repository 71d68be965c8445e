import DidMessaging.Proofs.Agent.Rewriting
import DidMessaging.Proofs.Agent.Rotation

namespace DidMessaging

open Result Json

/-! No message comes back from a text of its own that is taken for an envelope: it would have to lie
within one of its headers. -/

theorem Jwe.mem_of_read?_object {j : Jwe} {members : Members}
    (read : read? (.ofJson (.object members)) = some j) :
    ("ciphertext", .string j.ciphertext) ∈ members ∧ ("tag", .string j.tag) ∈ members := by
  simp only [read?, Option.bind_eq_bind, Option.bind_eq_some_iff, Option.pure_def,
    Option.some.injEq] at read
  obtain ⟨fields, found, header, -, recipients, -, iv, -, ciphertext, ciphertextRead, tag, tagRead,
    rfl⟩ := read
  rw [Fields.required?_string_eq_some_iff] at ciphertextRead tagRead
  exact ⟨(Fields.lookup_of_read?_object found (by decide)).mp ciphertextRead,
    (Fields.lookup_of_read?_object found (by decide)).mp tagRead⟩

theorem Jws.mem_of_read?_object {j : Jws} {members : Members}
    (read : read? (.ofJson (.object members)) = some j) :
    ("payload", .string j.payload) ∈ members := by
  simp only [read?, Option.bind_eq_bind, Option.bind_eq_some_iff, Option.pure_def,
    Option.some.injEq] at read
  obtain ⟨fields, found, payload, payloadRead, signatures, -, rfl⟩ := read
  rw [Fields.required?_string_eq_some_iff] at payloadRead
  exact (Fields.lookup_of_read?_object found (by decide)).mp payloadRead

namespace Envelope

/-- The members that hold what an envelope encloses. -/
def carriers : Envelope → Members
  | .encrypted r => [("ciphertext", .string r.jwe.ciphertext), ("tag", .string r.jwe.tag)]
  | .signed j => [("payload", .string j.payload)]
  | .plain _ => []

theorem nodup_carriers (e : Envelope) : (Members.names e.carriers).Nodup := by
  cases e <;> simp [carriers]

theorem string_of_mem_carriers {e : Envelope} (listed : m ∈ e.carriers) :
    m.1 ∉ Message.reserved ∧ ∃ s, m.2 = .string s := by
  cases e with
  | encrypted r =>
      rcases List.mem_pair.mp listed with rfl | rfl
      · exact ⟨by simp [Message.reserved], _, rfl⟩
      · exact ⟨by simp [Message.reserved], _, rfl⟩
  | signed j =>
      obtain rfl := List.mem_singleton.mp listed
      exact ⟨by simp [Message.reserved], _, rfl⟩
  | plain value => contradiction

theorem carriers_subset {e : Envelope} {text : String} {members : Members}
    (received : ofText text = .ok e) (read : Json.read? text = some (.object members)) :
    e.carriers ⊆ members := by
  obtain ⟨t, treeRead, valued⟩ := Option.bind_eq_some_iff.mp read
  have written : t.Rewritten (.ofJson (.object members)) := ⟨_, valued, rfl⟩
  cases e with
  | encrypted r =>
      obtain ⟨found, -⟩ := Jwe.parse_eq_ok_iff.mp (encrypted_of_ofText received)
      rw [treeRead, Option.bind_some] at found
      obtain ⟨ciphertext, tag⟩ := Jwe.mem_of_read?_object (Jwe.stable_read? _ _ _ written found)
      exact List.cons_subset.mpr ⟨ciphertext, List.cons_subset.mpr ⟨tag, List.nil_subset _⟩⟩
  | signed j =>
      obtain ⟨found, -⟩ := Jws.parse_eq_ok_iff.mp (signed_of_ofText received)
      rw [treeRead, Option.bind_some] at found
      have payload := Jws.mem_of_read?_object (Jws.stable_read? _ _ _ written found)
      exact List.cons_subset.mpr ⟨payload, List.nil_subset _⟩
  | plain value => exact List.nil_subset _

theorem sealedWeight_le_carriers (r : Jwe.Received) :
    r.jwe.sealedWeight ≤ membersWeight (encrypted r).carriers := by
  rw [Jwe.sealedWeight, carriers, membersWeight, membersWeight, membersWeight, weight, weight]
  omega

theorem weight_carriers_le {e : Envelope} {text : String} (received : ofText text = .ok e) :
    membersWeight e.carriers ≤ burden text := by
  obtain ⟨members, read⟩ := object_of_ofText received
  calc membersWeight e.carriers ≤ membersWeight members :=
        membersWeight_le_of_subset e.nodup_carriers (carriers_subset received read)
    _ = (object members).weight := by rw [weight]
    _ ≤ burden text := weight_le_burden read

end Envelope

theorem Outer.nothing_admits (layer : Layer) : Outer.nothing.Admits layer := by
  cases layer <;> simp [Admits]

/-- What lies in an envelope weighs less than the members that hold it. -/
theorem Opens.burden_lt {a : Agent} {options : UnpackOptions} {text : String}
    (opens : Opens a options text layer content) :
    ∃ e, Envelope.ofText text = .ok e ∧ burden content < membersWeight e.carriers := by
  by_cases encrypted : layer.isSigned = false
  · have calls : Agent.Calls a options (.nothing, text) layer (layer.outer, content) :=
      .inside opens encrypted (Outer.nothing_admits layer)
    obtain ⟨o, opened, decrypts⟩ := calls.decrypts
    obtain ⟨r, received, shorter⟩ := decrypts.shorter
    exact ⟨_, received, ((calls.burden_le opened).trans_lt shorter).trans_le
      (Envelope.sealedWeight_le_carriers r)⟩
  · cases opens with
    | auth | anon | forward => exact absurd rfl encrypted
    | signed received checked decoded inside =>
        refine ⟨_, received, ?_⟩
        have lighter := Agent.burden_of_payloadText inside
        have shorter := Jwe.length_of_decodeBase64Url decoded
        have named : 0 < stringWeight "payload" := by decide
        simp only [Envelope.carriers, membersWeight, weight]
        omega

theorem Nested.weight_le {a : Agent} {options : UnpackOptions} {text : String} {value : Json}
    (nested : Nested a options text layers value) : value.weight ≤ burden text := by
  induction nested with
  | plain received => exact weight_le_burden (Envelope.read?_of_ofText received)
  | layer opens nested ih =>
      obtain ⟨e, received, lighter⟩ := opens.burden_lt
      exact ih.trans (lighter.le.trans (Envelope.weight_carriers_le received))

namespace Agent

variable {a b : Agent} {m : Message} {d : Metadata} {options : UnpackOptions}

/-- A message that comes back from a text of its own was not taken out of an envelope. -/
theorem plain_of_unpack_wireText {jwt : Option String}
    (unpacked : b.unpack (m.wireText jwt) options = .ok ⟨m, d⟩) :
    ∃ value, Envelope.ofText (m.wireText jwt) = .ok (.plain value) := by
  obtain ⟨w, unwrapped, settled, -, -⟩ := unpack_eq_ok_iff.mp unpacked
  obtain ⟨s, value, layers, nested, read⟩ := unwrap_sound unwrapped
  obtain ⟨-, message⟩ := settleRotation_frame layers (Message.rotation_of_ofWire read) settled
  have extra : m.extra = w.message.extra := by
    rw [← message]
  generalize s.layers = ls at nested
  cases nested with
  | plain received => exact ⟨value, received⟩
  | layer opens inner =>
      obtain ⟨e, received, lighter⟩ := opens.burden_lt
      obtain ⟨found, textRead⟩ := Envelope.object_of_ofText received
      obtain ⟨written, wire, nodup, -, others⟩ := m.exists_wire_members jwt
      obtain ⟨members, rfl, kept⟩ := Message.strings_of_ofWire read
      -- The members of the envelope are headers of the message, and so they are in what lies within.
      have within : e.carriers ⊆ members := by
        intro member listed
        obtain ⟨other, text, string⟩ := Envelope.string_of_mem_carriers listed
        obtain ⟨name, _⟩ := member
        obtain rfl := string
        have present := Envelope.carriers_subset received textRead listed
        rw [Message.wireText, wire] at textRead
        rw [mem_string_of_read?_text nodup textRead] at present
        exact kept name text (extra ▸ others name text other present)
      have heavier := membersWeight_le_of_subset e.nodup_carriers within
      have inside : membersWeight members ≤ _ := inner.weight_le
      omega

/-- The proof that a packed message carries names the key that packing tells of. -/
theorem packPlaintext_named {packed : PackedPlaintext}
    (packs : a.packPlaintext m kid = .ok packed) :
    m.rotation = none ∧ packed = ⟨m.wireText none, none⟩ ∨
      m.rotation ≠ none ∧ ∃ jwt compact, CompactJws.parse jwt = .ok compact ∧
        packed = ⟨m.wireText (some jwt), some compact.header.kid⟩ := by
  cases rotates : m.rotation with
  | none =>
      have valid : m.validate = .ok () := by
        obtain ⟨checked, -⟩ := check_bind_eq_ok_iff.mp packs
        exact ofCheck_eq_ok_iff.mp checked
      have again := packPlaintext_of_noRotation a valid rotates kid
      exact .inl ⟨rfl, Except.ok.inj (packs.symm.trans again)⟩
  | some r =>
      obtain ⟨-, proof, proves, rfl⟩ := packPlaintext_sound packs rotates
      obtain ⟨-, -, key, -, named, signs⟩ := prove_sound proves
      obtain ⟨_, _, signature, -, -, -, assembled⟩ := CompactJws.sign_sound signs
      refine .inr ⟨nofun, proof.jwt, _, assembled ▸ CompactJws.parse_assemble _ _ _, ?_⟩
      rw [named]

/-- The proof is received as it was sent. -/
theorem proof_of_wireText {value : Json} {proof : Option String}
    (received : Envelope.ofText (m.wireText (some jwt)) = .ok (.plain value))
    (read : Message.ofWire value = .ok (m', proof)) : proof = some jwt := by
  obtain ⟨written, wire, nodup, carries, -⟩ := m.exists_wire_members (some jwt)
  have textRead := Envelope.read?_of_ofText received
  obtain ⟨members, rfl, -⟩ := Message.strings_of_ofWire read
  obtain ⟨sorted, -⟩ := Json.canonical_of_read? textRead
  rw [Message.wireText, wire] at textRead
  exact Message.proof_of_ofWire sorted.nodup read
    ((mem_string_of_read?_text nodup textRead).mpr (carries jwt rfl))

/-- A packed message that comes back was never in an envelope, and the key that proved its rotation
is told as packing told it. -/
theorem unpack_packed {packed : PackedPlaintext} (packs : a.packPlaintext m kid = .ok packed)
    (unpacked : b.unpack packed.text options = .ok ⟨m, d⟩) :
    ∃ value jwt, Envelope.ofText packed.text = .ok (.plain value) ∧
      packed.text = m.wireText jwt ∧
      d = { rotationKid := packed.rotationKid, rotationJwt := jwt } := by
  obtain ⟨value, received⟩ : ∃ value, Envelope.ofText packed.text = .ok (.plain value) := by
    rcases packPlaintext_named packs with ⟨-, rfl⟩ | ⟨-, jwt, _, -, rfl⟩
    · exact plain_of_unpack_wireText unpacked
    · exact plain_of_unpack_wireText unpacked
  obtain ⟨⟨layers, message, proof⟩, unwrapped, settled, -, -⟩ := unpack_eq_ok_iff.mp unpacked
  obtain ⟨s, value', sameLayers, nested, read⟩ := unwrap_sound unwrapped
  obtain ⟨noLayers, rfl⟩ := nested.unique (.plain received)
  obtain rfl : layers = [] := sameLayers.symm.trans noLayers
  have noRotation : message.rotation = none := Message.rotation_of_ofWire read
  rcases settleRotation_sound settled with ⟨-, settled⟩ | ⟨jwt, kid', r, rfl, proved, -, settled⟩
  · obtain ⟨rfl, rfl⟩ := Unpacked.mk.inj settled
    rcases packPlaintext_named packs with ⟨-, rfl⟩ | ⟨rotates, -⟩
    · exact ⟨value', none, received, rfl, rfl⟩
    · exact absurd noRotation rotates
  · obtain ⟨rotated, rfl⟩ := Unpacked.mk.inj settled
    rcases packPlaintext_named packs with ⟨unmoved, -⟩ | ⟨-, jwt', compact, parsed, rfl⟩
    · rw [rotated] at unmoved
      contradiction
    · obtain rfl : jwt = jwt' := Option.some.inj (proof_of_wireText received read)
      obtain ⟨compact', _, _, parsed', named, -⟩ := proved.signed
      obtain rfl := Except.ok.inj (parsed.symm.trans parsed')
      exact ⟨value', some jwt, received, rfl, named ▸ rfl⟩

/-! The invitation, from one who had another DID before. -/

def fromAnn : Rotation where
  iss := "did:example:ann"
  sub := "did:example:alice"

def renewal : Message := { invitation with rotation := some fromAnn }

def annClaims : Bytes := Utf8.encode fromAnn.json.text

/-- What ann signs of the rotation. -/
def annText : String :=
  CompactJws.signedText ⟨"JWT", SignatureAlgorithm.edDsa.name, annKey.id⟩ annClaims

def annProof : Rotation.Proof where
  jwt := CompactJws.assemble ⟨"JWT", SignatureAlgorithm.edDsa.name, annKey.id⟩ annClaims
    (Ed25519.sign (List.replicate 32 5) (Utf8.encode annText))
  kid := "did:example:ann#1"

theorem signs_annKey : annKey.Signs .edDsa (List.replicate 32 5) :=
  Key.signs_pair List.length_replicate

theorem wire_renewal (jwt : String) : renewal.wire (some jwt) =
    .object [("body", .object [("at", .number (.nat 12))]), ("from", .string "did:example:alice"),
      ("from_prior", .string jwt), ("id", .string "1"), ("to", .array [.string "did:example:bob"]),
      ("typ", .string "application/didcomm-plain+json"), ("type", .string "invitation"),
      ("urgent", .bool true)] := rfl

theorem legible_renewal (jwt : String) :
    (renewal.wire (some jwt)).Legible Json.Tree.deepest := by
  rw [wire_renewal]
  refine Json.Legible.mono ⟨?_, ?_⟩ (by decide : 2 ≤ _)
  · simp [Json.Whole, Json.WholeMembers, Json.WholeItems, Number.Whole]
  · simp [Json.depth, Json.membersDepth, Json.itemsDepth]

theorem canonical_renewal : renewal.Canonical := by
  constructor <;> simp [renewal, invitation, Json.Canonical, Json.CanonicalMembers, Members.Sorted,
    Members.names]

theorem prove_fromAnn : alice.prove fromAnn none = .ok annProof := by
  have valid : fromAnn.validate = .ok () := rfl
  have found : alice.signingKey fromAnn.iss = .ok annKey :=
    bind_eq_ok_iff.mpr ⟨"did:example:ann#1", rfl, key_annKey⟩
  exact prove_eq_ok valid found (CompactJws.sign_edDsa signs_annKey _ _)

theorem correct_annText :
    SignatureAlgorithm.edDsa.Correct (List.replicate 32 5) (Utf8.encode annText) := by
  refine .edDsa List.length_replicate ?_
  simp only [annText, annClaims, CompactJws.signedText, encode_signingInput, Json.encode_text]
  decide +kernel

theorem attests_fromAnn : alice.Attests fromAnn "did:example:ann#1" :=
  attests_of_signs key_annKey signs_annKey correct_annText

theorem plaintext_renewal : alice.plaintext renewal none =
    .ok ⟨renewal.wireText (some annProof.jwt), some annProof.kid⟩ :=
  plaintext_of_prove rfl prove_fromAnn

theorem unpack_renewal : bob.unpack (renewal.wireText (some annProof.jwt)) {} = .ok ⟨renewal, {
    rotationKid := some "did:example:ann#1"
    rotationJwt := some annProof.jwt }⟩ := by
  have checked := checkProof_of_prove (b := bob) tidy_alice rfl prove_fromAnn attests_fromAnn
  rw [unpack_wireText checked rfl canonical_renewal (Message.distinct_of_validate rfl)
    (legible_renewal annProof.jwt) (by simp [renewal, invitation])
    (by simp [Message.Plain, renewal, invitation])]
  rfl

/-- What is encrypted is unpacked by the recipient as the message that it was, if that comes back
from its plaintext. The metadata tell how it was packed, and the key that proved its rotation. -/
theorem packEncrypted_unpack {a b : Agent} {m : Message} {options : EncryptOptions}
    {sender signer : Option String} {plain : PackedPlaintext} {plainOptions : UnpackOptions}
    {d : Metadata}
    (packs : a.packEncrypted m recipient sender signer options e = .ok (packed, e'))
    (direct : options.forward = false)
    (plainPacks : a.packPlaintext m options.rotationKid = .ok plain)
    (survives : b.unpack plain.text plainOptions = .ok ⟨m, d⟩)
    (notForward : Forward.ofMessage? m = none)
    (receives : b.Receives a recipient packed.toKids (a.Uses e packed.fromKid))
    (encryptedBy : ∀ kid ∈ packed.fromKid, m.sender = some (Did.ofUrl kid) ∧ b.Knows a kid)
    (signedBy : ∀ kid ∈ packed.signKid, m.sender = some (Did.ofUrl kid) ∧ b.Knows a kid ∧
      a.SignsFor plain.text kid)
    (unpackOptions : UnpackOptions) :
    ∃ payload, a.payload plain.text signer = .ok (payload, packed.signKid) ∧
      plain.text = m.wireText d.rotationJwt ∧
      b.unpack packed.text unpackOptions = .ok ⟨m, {
        encrypted := true
        authenticated := sender.isSome || signer.isSome
        nonRepudiation := signer.isSome
        anonymousSender := sender.isNone || options.protectSender
        reWrapped := false
        encryptedTo := some (b.keyring.held packed.toKids)
        encryptedFrom := packed.fromKid
        signFrom := packed.signKid
        rotationKid := packed.rotationKid
        authAlgorithm := sender.map fun _ => options.authAlgorithm
        anonAlgorithm := if sender.isNone || options.protectSender then
          some options.anonAlgorithm else none
        signAlgorithm := packed.signKid.bind a.algorithmOf?
        signedText := packed.signKid.map fun _ => payload
        rotationJwt := d.rotationJwt }⟩ := by
  obtain ⟨value, jwt, received, carries, rfl⟩ := unpack_packed plainPacks survives
  unfold packEncrypted at packs
  obtain ⟨⟨⟩, -, packs⟩ := Drawn.lift_bind_eq_ok_iff.mp packs
  obtain ⟨plain', plainMade, packs⟩ := Drawn.lift_bind_eq_ok_iff.mp packs
  obtain ⟨⟨payload, signKid⟩, made, packs⟩ := Drawn.lift_bind_eq_ok_iff.mp packs
  obtain ⟨⟨text, toKids, fromKid⟩, between, encrypts, packs⟩ := Drawn.bind_eq_ok_iff.mp packs
  simp only [direct] at packs
  obtain ⟨⟨text, delivery⟩, afterRoute, routed, packs⟩ := Drawn.bind_eq_ok_iff.mp packs
  obtain ⟨routed, rfl⟩ := Drawn.pure_eq_ok_iff.mp routed
  cases routed
  obtain ⟨rfl, rfl⟩ := Drawn.pure_eq_ok_iff.mp packs
  obtain rfl : plain' = plain := by
    obtain ⟨⟨⟩, -, plainPacks⟩ := bind_eq_ok_iff.mp plainPacks
    exact Except.ok.inj (plainMade.symm.trans plainPacks)
  exact ⟨payload, made, carries, unpack_of_encryptFor survives received notForward made encrypts
    receives encryptedBy signedBy unpackOptions⟩

/-- The invitation, signed and with its sender hidden, and with the proof that the sender had another
DID before. -/
theorem packEncrypted_unpack_invitation :
    (∃ packed e' payload,
      alice.packEncrypted invitation "did:example:bob" (some "did:example:alice")
        (some "did:example:alice") hidden stream = .ok (packed, e') ∧
      bob.unpack packed.text { allKeys := true, unwrapForward := false } = .ok ⟨invitation, {
        encrypted := true
        authenticated := true
        nonRepudiation := true
        anonymousSender := true
        encryptedTo := some ["did:example:bob#1"]
        encryptedFrom := some "did:example:alice#1"
        signFrom := some "did:example:alice#2"
        authAlgorithm := some .usual
        anonAlgorithm := some .usual
        signAlgorithm := some .edDsa
        signedText := some payload }⟩) ∧
    ∃ packed e',
      alice.packEncrypted renewal "did:example:bob" (some "did:example:alice") none hidden stream =
        .ok (packed, e') ∧
      bob.unpack packed.text {} = .ok ⟨renewal, {
        encrypted := true
        authenticated := true
        anonymousSender := true
        encryptedTo := some ["did:example:bob#1"]
        encryptedFrom := some "did:example:alice#1"
        rotationKid := some "did:example:ann#1"
        authAlgorithm := some .usual
        anonAlgorithm := some .usual
        rotationJwt := some annProof.jwt }⟩ := by
  constructor
  · obtain ⟨payload, j, e', made, encrypts⟩ := seals_hidden invitation.json.text
    have packs : alice.packEncrypted invitation "did:example:bob" (some "did:example:alice")
        (some "did:example:alice") hidden stream = .ok (⟨j.text, ["did:example:bob#1"],
          some "did:example:alice#1", some "did:example:alice#2", none, none⟩, e') :=
      Drawn.lift_bind_eq_ok_iff.mpr ⟨(), rfl, Drawn.lift_bind_eq_ok_iff.mpr
        ⟨⟨invitation.json.text, none⟩, rfl, Drawn.lift_bind_eq_ok_iff.mpr ⟨_, made,
        Drawn.bind_eq_ok_iff.mpr ⟨_, e', encrypts, rfl⟩⟩⟩⟩
    obtain ⟨payload', -, -, unpacked⟩ := packEncrypted_unpack packs rfl rfl unpack_invitation
      rfl receives_bob encryptedBy_alice signedBy_alice { allKeys := true, unwrapForward := false }
    refine ⟨_, e', payload', packs, ?_⟩
    rw [unpacked, Option.bind_some, algorithmOf?_aliceSigner]
    rfl
  · obtain ⟨j, e', encrypts⟩ := encryptFor_hidden (renewal.wireText (some annProof.jwt))
    have packs : alice.packEncrypted renewal "did:example:bob" (some "did:example:alice") none
        hidden stream = .ok (⟨j.text, ["did:example:bob#1"], some "did:example:alice#1", none,
          some "did:example:ann#1", none⟩, e') :=
      Drawn.lift_bind_eq_ok_iff.mpr ⟨(), rfl, Drawn.lift_bind_eq_ok_iff.mpr
        ⟨_, plaintext_renewal, Drawn.lift_bind_eq_ok_iff.mpr ⟨_, rfl,
        Drawn.bind_eq_ok_iff.mpr ⟨_, e', encrypts, rfl⟩⟩⟩⟩
    have plainPacks : alice.packPlaintext renewal none =
        .ok ⟨renewal.wireText (some annProof.jwt), some "did:example:ann#1"⟩ :=
      check_bind_eq_ok_iff.mpr ⟨rfl, plaintext_renewal⟩
    obtain ⟨payload, -, -, unpacked⟩ := packEncrypted_unpack packs rfl plainPacks unpack_renewal rfl
      receives_bob encryptedBy_alice nofun {}
    exact ⟨_, e', packs, unpacked⟩

end Agent

end DidMessaging
