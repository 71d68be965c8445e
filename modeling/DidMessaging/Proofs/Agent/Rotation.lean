import DidMessaging.Proofs.Agent.Signer
import DidMessaging.Proofs.Did.Url
import DidMessaging.Proofs.Envelope.Attesting
import DidMessaging.Proofs.Message.Rotation

namespace DidMessaging

open Result

namespace Agent

/-- Documents name keys of their own for signatures, each by a DID URL of its document, and publish
the halves of the secrets that are held. -/
structure Tidy (a : Agent) : Prop where
  own : ∀ doc ∈ a.directory.documents, ∀ kid ∈ doc.authentication, ∃ m ∈ doc.methods, m.id = kid
  urls : ∀ doc ∈ a.directory.documents, ∀ kid ∈ doc.authentication,
    Did.isUrl kid = true ∧ Did.ofUrl kid = doc.id
  pairs : ∀ doc ∈ a.directory.documents, ∀ m ∈ doc.methods, ∀ key,
    a.keyring.key m.id = .ok key → ∃ published, Key.ofMethod m = .ok published ∧
      key.SamePoint published

/-- What the agent signs of a rotation with a key of its own holds under that key. -/
def Attests (a : Agent) (r : Rotation) (kid : String) : Prop :=
  ∀ key jwt j, a.keyring.key kid = .ok key →
    CompactJws.sign (Utf8.encode r.json.text) key "JWT" = .ok jwt → CompactJws.parse jwt = .ok j →
    key.SignsFor (Utf8.encode j.signed)

variable {a b : Agent} {m : Message} {r : Rotation}

/-! The key of the sender. -/

/-- The id of the key that signs for a DID, or for a DID URL, is one that its document publishes. -/
theorem SigningKid.published (tidy : a.Tidy) (signs : a.SigningKid signer kid) :
    Did.isUrl kid = true ∧ Did.ofUrl kid = Did.ofUrl signer ∧ ∃ doc method,
      a.directory.document (Did.ofUrl signer) = .ok doc ∧ doc.method? kid = some method := by
  cases signs with
  | named isUrl known published =>
      obtain ⟨method, methodFound⟩ := Document.exists_method_iff.mpr published
      exact ⟨isUrl, rfl, _, method, known, Document.method_eq_ok_iff.mp methodFound⟩
  | @first doc before kid after bare known listed unheld held =>
      obtain ⟨member, id⟩ := Directory.mem_of_document known
      have kidListed : kid ∈ doc.authentication :=
        listed ▸ List.mem_append_right before List.mem_cons_self
      obtain ⟨isUrl, ofUrl⟩ := tidy.urls doc member kid kidListed
      obtain ⟨method, methodFound⟩ :=
        Document.exists_method_iff.mpr (tidy.own doc member kid kidListed)
      exact ⟨isUrl, ofUrl.trans id, doc, method, known, Document.method_eq_ok_iff.mp methodFound⟩

/-- All who have the same directory know the published half of the key that signs. -/
theorem signingKey_sound (tidy : a.Tidy) (same : b.directory = a.directory)
    (found : a.signingKey signer = .ok key) :
    a.keyring.key key.id = .ok key ∧ Did.ofUrl key.id = Did.ofUrl signer ∧
      ∃ published, b.verificationKey key.id = .ok published ∧ key.SamePoint published := by
  obtain ⟨signs, found⟩ := signingKey_eq_ok_iff.mp found
  obtain ⟨isUrl, ofUrl, doc, method, resolved, methodFound⟩ := signs.published tidy
  obtain ⟨listed, id⟩ := Document.method?_sound methodFound
  obtain ⟨published, ofMethod, samePoint⟩ :=
    tidy.pairs doc (Directory.mem_of_document resolved).1 method listed key (id ▸ found)
  rw [← same, ← ofUrl] at resolved
  exact ⟨found, ofUrl, published,
    verificationKey_eq_ok_iff.mpr ⟨isUrl, doc, method, resolved, methodFound, ofMethod⟩, samePoint⟩

/-! Proof and check. -/

theorem prove_sound (proves : a.prove r kid = .ok proof) :
    r.validate = .ok () ∧ Did.ofUrl (kid.getD r.iss) = r.iss ∧
      ∃ key, a.signingKey (kid.getD r.iss) = .ok key ∧ proof.kid = key.id ∧
        CompactJws.sign (Utf8.encode r.json.text) key "JWT" = .ok proof.jwt := by
  unfold prove at proves
  obtain ⟨checked, proves⟩ := check_bind_eq_ok_iff.mp proves
  have valid := ofCheck_eq_ok_iff.mp checked
  have issuer := Did.ofUrl_of_parse? (Rotation.validate_sound valid).1
  obtain ⟨ofUrl, signs⟩ : Did.ofUrl (kid.getD r.iss) = r.iss ∧
      (do
        let key ← a.signingKey (kid.getD r.iss)
        let jwt ← CompactJws.sign (Utf8.encode r.json.text) key "JWT"
        return { jwt, kid := key.id }) = Except.ok proof := by
    cases kid with
    | none => exact ⟨issuer, proves⟩
    | some kid =>
        obtain ⟨ofIssuer, signs⟩ := ite_throw_eq_ok_iff.mp proves
        simp only [Bool.or_eq_true, decide_eq_true_eq, not_or, not_not] at ofIssuer
        exact ⟨ofIssuer.2, signs⟩
  obtain ⟨key, found, signs⟩ := bind_eq_ok_iff.mp signs
  obtain ⟨jwt, signed, signs⟩ := bind_eq_ok_iff.mp signs
  obtain rfl := pure_eq_ok_iff.mp signs
  exact ⟨valid, ofUrl, key, found, rfl, signed⟩

theorem prove_eq_ok (valid : r.validate = .ok ()) (found : a.signingKey r.iss = .ok key)
    (signs : CompactJws.sign (Utf8.encode r.json.text) key "JWT" = .ok jwt) :
    a.prove r none = .ok ⟨jwt, key.id⟩ :=
  check_bind_eq_ok_iff.mpr ⟨ofCheck_eq_ok_iff.mpr valid,
    bind_eq_ok_iff.mpr ⟨key, found, bind_eq_ok_iff.mpr ⟨jwt, signs, rfl⟩⟩⟩

/-- A key attests to what its algorithm signs correctly. -/
theorem attests_of_signs {algorithm : SignatureAlgorithm} {d : Bytes}
    (found : a.keyring.key kid = .ok key) (signs : key.Signs algorithm d)
    (correct : algorithm.Correct d (Utf8.encode
      (CompactJws.signedText ⟨"JWT", algorithm.name, key.id⟩ (Utf8.encode r.json.text)))) :
    a.Attests r kid := by
  intro key' jwt j found' made parsed
  obtain rfl := Except.ok.inj (found.symm.trans found')
  obtain ⟨a', d', signature, ofCurve, -, -, rfl⟩ := CompactJws.sign_sound made
  obtain rfl := Except.ok.inj ((CompactJws.parse_assemble _ _ _).symm.trans parsed)
  obtain rfl := Except.ok.inj (signs.algorithm.symm.trans ofCurve)
  exact signs.signsFor correct

/-- A proof that was made checks, and gives the claims that were proved. -/
theorem checkProof_of_prove (tidy : a.Tidy) (same : b.directory = a.directory)
    (proves : a.prove r kid = .ok proof) (correct : a.Attests r proof.kid) :
    b.checkProof proof.jwt = .ok (r, proof) := by
  obtain ⟨valid, ofIssuer, key, found, kid, signs⟩ := prove_sound proves
  obtain ⟨own, ofUrl, published, publishedFound, samePoint⟩ := signingKey_sound tidy same found
  rw [kid] at correct
  obtain ⟨jwk, made⟩ := Keyring.ofJwk_of_key own
  obtain ⟨algorithm, j, -, parsed, header, decoded, verified⟩ := CompactJws.verify_of_sign
    (fun _ => Key.exists_verifyingBytes made) samePoint signs
    fun j parsed => correct key proof.jwt j own signs parsed
  have read : (Json.Tree.readBytes? (Utf8.encode r.json.text)).bind Rotation.read? = some r := by
    have deep : r.json.depth ≤ Json.Tree.deepest := Nat.le_trans r.legible_json.deep (by decide)
    rw [Json.Tree.readBytes?_encode r.legible_json.whole deep, Option.bind_some, r.read?_json]
  have issuer : Did.ofUrl key.id = r.iss := ofUrl.trans ofIssuer
  unfold checkProof
  refine bind_eq_ok_iff.mpr ⟨j, parsed, ?_⟩
  rw [header]
  refine bind_eq_ok_iff.mpr ⟨published, publishedFound, check_bind_eq_ok_iff.mpr ⟨verified, ?_⟩⟩
  refine bind_eq_ok_iff.mpr ⟨_, decoded, ?_⟩
  simp only [read]
  refine ite_throw_eq_ok_iff.mpr ⟨not_not.mpr issuer, ?_⟩
  rw [valid, ← kid]
  rfl

/-! Messages with a rotation. -/

theorem plaintext_of_prove (rotates : m.rotation = some r) (proves : a.prove r kid = .ok proof) :
    a.plaintext m kid = .ok ⟨m.wireText (some proof.jwt), some proof.kid⟩ := by
  have made : a.proofFor m kid = .ok (some proof) := by
    rw [proofFor, rotates]
    exact map_eq_ok_iff.mpr ⟨proof, proves, rfl⟩
  rw [plaintext, made]
  rfl

theorem packPlaintext_sound (packs : a.packPlaintext m kid = .ok packed)
    (rotates : m.rotation = some r) :
    m.validate = .ok () ∧ ∃ proof, a.prove r kid = .ok proof ∧
      packed = ⟨m.wireText (some proof.jwt), some proof.kid⟩ := by
  unfold packPlaintext plaintext proofFor at packs
  obtain ⟨checked, packs⟩ := check_bind_eq_ok_iff.mp packs
  rw [rotates] at packs
  obtain ⟨found, made, packs⟩ := bind_eq_ok_iff.mp packs
  obtain ⟨proof, proves, rfl⟩ := map_eq_ok_iff.mp made
  exact ⟨ofCheck_eq_ok_iff.mp checked, proof, proves, (pure_eq_ok_iff.mp packs).symm⟩

theorem received_wire (canonical : m.Canonical) (distinct : m.Distinct)
    (legible : (m.wire (some jwt)).Legible Json.Tree.deepest) (plain : m.Plain) :
    Envelope.ofText (m.wireText (some jwt)) = .ok (.plain (m.wire (some jwt))) := by
  have absent {name : String} (other : name ∉ Message.reserved)
      (notExtra : name ∉ Members.names m.extra) :
      name ∉ Members.names (Members.insert Message.rotationName (.string jwt) m.members) := by
    intro listed
    rcases Members.mem_names_insert listed with rfl | old
    · exact other (by decide)
    · exact notExtra ((Message.mem_names_members distinct canonical.sorted other).mp old)
  exact (Envelope.plain_of_ofText (legible.read?_text (m.canonical_wire jwt))).mpr
    ⟨absent (by decide) plain.1, absent (by decide) plain.2, rfl⟩

/-- The claims of a message that may be sent are about its sender, if it names one. -/
theorem subject_of_validate (valid : m.validate = .ok ()) (rotates : m.rotation = some r)
    (sender : m.sender = some s) : r.sub = s := by
  unfold Message.validate at valid
  simp only [ite_throw_eq_ok_iff, sender, rotates] at valid
  obtain ⟨-, -, valid⟩ := valid
  obtain ⟨-, valid⟩ := check_bind_eq_ok_iff.mp valid
  obtain ⟨-, valid⟩ := check_bind_eq_ok_iff.mp valid
  by_contra other
  split at valid
  · exact absurd valid throw_bind_ne_ok
  · obtain ⟨-, valid⟩ := check_bind_eq_ok_iff.mp valid
    simp [other] at valid

theorem unwrap_wire {options : UnpackOptions} (canonical : m.Canonical) (distinct : m.Distinct)
    (legible : (m.wire (some jwt)).Legible Json.Tree.deepest)
    (notNull : ∀ as ∈ m.attachments, ∀ a ∈ as, a.content.jws ≠ some .null) (plain : m.Plain) :
    b.unwrap options (m.wireText (some jwt)) =
      .ok ⟨[], { m with rotation := none }, some jwt⟩ := by
  have nested : Nested b options (m.wireText (some jwt)) ({} : Stack).layers (m.wire (some jwt)) :=
    .plain (received_wire canonical distinct legible plain)
  exact unwrap_complete nested (Message.ofWire_wire canonical distinct notNull jwt) (Nat.succ_pos _)

theorem settleRotation_of_checkProof (checked : b.checkProof jwt = .ok (r, proof))
    (rotates : m.rotation = some r) :
    b.settleRotation ⟨[], { m with rotation := none }, some jwt⟩ =
      if m.sender = some r.sub then
        .ok ⟨m, { rotationKid := some proof.kid, rotationJwt := some jwt }⟩
      else .error (.malformed .subjectNotSender) := by
  have restored : { m with rotation := some r } = m := by
    rw [← rotates]
  unfold settleRotation
  simp only [checked]
  by_cases named : m.sender = some r.sub
  · rw [if_pos named]
    refine ite_throw_eq_ok_iff.mpr ⟨not_not.mpr named, ?_⟩
    dsimp only
    rw [restored]
    rfl
  · rw [if_neg named]
    exact if_pos named

/-- A message with a proof that checks comes back just when the proof is about its sender. -/
theorem unpack_wireText {options : UnpackOptions} (checked : b.checkProof jwt = .ok (r, proof))
    (rotates : m.rotation = some r) (canonical : m.Canonical) (distinct : m.Distinct)
    (legible : (m.wire (some jwt)).Legible Json.Tree.deepest)
    (notNull : ∀ as ∈ m.attachments, ∀ a ∈ as, a.content.jws ≠ some .null) (plain : m.Plain) :
    b.unpack (m.wireText (some jwt)) options =
      if m.sender = some r.sub then
        .ok ⟨m, { rotationKid := some proof.kid, rotationJwt := some jwt }⟩
      else .error (.malformed .subjectNotSender) := by
  unfold unpack
  rw [unwrap_wire canonical distinct legible notNull plain]
  have settled := settleRotation_of_checkProof checked rotates
  by_cases named : m.sender = some r.sub
  · rw [if_pos named] at settled ⊢
    simp only [bind, Except.bind, settled]
    rfl
  · rw [if_neg named] at settled ⊢
    simp only [bind, Except.bind, settled]

/-! A message by which alice takes another DID, with and without that DID as its sender. -/

def toCarol : Rotation where
  iss := "did:example:alice"
  sub := "did:example:carol"

def moved (sender : Option String) : Message where
  id := "2"
  type := "moved"
  body := .object []
  sender
  rotation := some toCarol

theorem tidy_alice : alice.Tidy where
  own := by
    intro doc listed kid kidListed
    rcases List.mem_cons.mp listed with rfl | listed
    · obtain rfl := List.mem_singleton.mp kidListed
      exact ⟨_, List.mem_cons_of_mem _ List.mem_cons_self, rfl⟩
    · rcases List.mem_pair.mp listed with rfl | rfl
      · contradiction
      · obtain rfl := List.mem_singleton.mp kidListed
        exact ⟨_, List.mem_cons_self, rfl⟩
  urls := by
    intro doc listed kid kidListed
    rcases List.mem_cons.mp listed with rfl | listed
    · obtain rfl := List.mem_singleton.mp kidListed
      decide
    · rcases List.mem_pair.mp listed with rfl | rfl
      · contradiction
      · obtain rfl := List.mem_singleton.mp kidListed
        decide
  pairs := by
    intro doc listed method published key found
    rcases List.mem_cons.mp listed with rfl | listed
    · rcases List.mem_pair.mp published with rfl | rfl
      · obtain rfl := Except.ok.inj (found.symm.trans key_aliceKey)
        exact ⟨_, Key.ofMethod_pair rfl (X25519.length_publicKey _) List.length_replicate _,
          Key.samePoint_of_jwk rfl rfl rfl⟩
      · obtain rfl := Except.ok.inj (found.symm.trans key_aliceSigner)
        exact ⟨_, Key.ofMethod_pair rfl (Ed25519.length_publicKey _) List.length_replicate _,
          Key.samePoint_of_jwk rfl rfl rfl⟩
    · rcases List.mem_pair.mp listed with rfl | rfl
      · obtain rfl := List.mem_singleton.mp published
        contradiction
      · obtain rfl := List.mem_singleton.mp published
        obtain rfl := Except.ok.inj (found.symm.trans key_annKey)
        exact ⟨_, Key.ofMethod_pair rfl (Ed25519.length_publicKey _) List.length_replicate _,
          Key.samePoint_of_jwk rfl rfl rfl⟩

theorem attests_toCarol : alice.Attests toCarol "did:example:alice#2" := by
  refine attests_of_signs key_aliceSigner (Key.signs_pair List.length_replicate)
    (.edDsa List.length_replicate ?_)
  simp only [CompactJws.signedText, encode_signingInput, Json.encode_text]
  decide +kernel

theorem exists_proof_toCarol :
    ∃ jwt, alice.prove toCarol none = .ok ⟨jwt, "did:example:alice#2"⟩ := by
  have valid : toCarol.validate = .ok () := rfl
  have found : alice.signingKey toCarol.iss = .ok aliceSigner := signingKey_alice
  have paired : aliceSigner.Signs .edDsa (List.replicate 32 2) :=
    Key.signs_pair List.length_replicate
  exact ⟨_, prove_eq_ok valid found (CompactJws.sign_edDsa paired _ _)⟩

theorem legible_moved (sender : Option String) (jwt : String) :
    ((moved sender).wire (some jwt)).Legible Json.Tree.deepest := by
  have members : (moved sender).ownMembers ++ (moved sender).extra =
      [("id", .string "2"), ("typ", .string MediaType.plain.name), ("type", .string "moved"),
        ("body", .object [])] ++ Json.optional "from" .string sender ++
        [("from_prior", toCarol.json)] := by
    cases sender <;> rfl
  refine (Message.legible_wire (fun member listed => ?_) jwt).mono (by decide : 1 + 1 ≤ _)
  simp only [members, List.mem_append, List.mem_cons, List.not_mem_nil, or_false,
    Json.mem_optional] at listed
  rcases listed with ((rfl | rfl | rfl | rfl) | ⟨s, -, rfl⟩) | rfl
  case inl.inl.inr.inr.inr => exact ⟨trivial, Nat.le_refl 1⟩
  case inr => exact toCarol.legible_json
  all_goals exact ⟨trivial, Nat.zero_le 1⟩

theorem canonical_moved (sender : Option String) : (moved sender).Canonical := by
  constructor <;> simp [moved, Json.Canonical, Json.CanonicalMembers, Members.Sorted, Members.names]

theorem packs_moved (sender : Option String) (proves : alice.prove toCarol none = .ok proof)
    (valid : (moved sender).validate = .ok ()) :
    alice.packPlaintext (moved sender) none =
      .ok ⟨(moved sender).wireText (some proof.jwt), some proof.kid⟩ :=
  check_bind_eq_ok_iff.mpr ⟨ofCheck_eq_ok_iff.mpr valid, plaintext_of_prove rfl proves⟩

/-- A message with a rotation that is packed in the clear unpacks as it was, with the key that
proved the rotation, exactly when it names its sender. -/
theorem packPlaintext_unpack_rotation {packed : PackedPlaintext}
    (packs : a.packPlaintext m kid = .ok packed) (rotates : m.rotation = some r)
    (same : b.directory = a.directory) (tidy : a.Tidy) (canonical : m.Canonical)
    (legible : ∀ jwt, (m.wire (some jwt)).Legible Json.Tree.deepest)
    (notNull : ∀ as ∈ m.attachments, ∀ a ∈ as, a.content.jws ≠ some .null) (plain : m.Plain)
    (correct : ∀ kid ∈ packed.rotationKid, a.Attests r kid) (options : UnpackOptions) :
    ∃ jwt, packed.text = m.wireText (some jwt) ∧ packed.rotationKid.isSome ∧
      b.unpack packed.text options =
        if m.sender.isSome then
          .ok ⟨m, { rotationKid := packed.rotationKid, rotationJwt := some jwt }⟩
        else .error (.malformed .subjectNotSender) := by
  obtain ⟨valid, proof, proves, rfl⟩ := packPlaintext_sound packs rotates
  have checked := checkProof_of_prove tidy same proves (correct proof.kid rfl)
  have distinct := Message.distinct_of_validate valid
  refine ⟨proof.jwt, rfl, rfl, ?_⟩
  rw [unpack_wireText checked rotates canonical distinct (legible proof.jwt) notNull plain]
  cases sender : m.sender with
  | none => rfl
  | some s =>
      obtain rfl := subject_of_validate valid rotates sender
      rw [if_pos rfl]
      rfl

theorem packPlaintext_unpack_moved :
    ∃ named unnamed jwt,
      alice.packPlaintext (moved (some "did:example:carol")) none = .ok named ∧
      bob.unpack named.text {} = .ok ⟨moved (some "did:example:carol"),
        { rotationKid := some "did:example:alice#2", rotationJwt := some jwt }⟩ ∧
      alice.packPlaintext (moved none) none = .ok unnamed ∧
      bob.unpack unnamed.text {} = .error (.malformed .subjectNotSender) := by
  obtain ⟨jwt, proves⟩ := exists_proof_toCarol
  have attests (kid : String) (member : kid ∈ some "did:example:alice#2") :
      alice.Attests toCarol kid := Option.mem_some.mp member ▸ attests_toCarol
  have packsNamed := packs_moved (some "did:example:carol") proves (by rfl)
  have packsUnnamed := packs_moved none proves (by rfl)
  obtain ⟨namedJwt, -, -, unpacksNamed⟩ := packPlaintext_unpack_rotation packsNamed rfl
    (b := bob) rfl tidy_alice (canonical_moved _) (legible_moved _) (by simp [moved])
    (by simp [Message.Plain, moved]) attests {}
  obtain ⟨unnamedJwt, -, -, unpacksUnnamed⟩ := packPlaintext_unpack_rotation packsUnnamed rfl
    (b := bob) rfl tidy_alice (canonical_moved _) (legible_moved _) (by simp [moved])
    (by simp [Message.Plain, moved]) attests {}
  exact ⟨_, _, namedJwt, packsNamed, unpacksNamed, packsUnnamed, unpacksUnnamed⟩

end Agent

end DidMessaging
