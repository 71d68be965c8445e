import DidMessaging.Proofs.Agent.Sealing

namespace DidMessaging.Agent

open Result

variable {a b : Agent} {e e' : Entropy} {payload : String}

/-- The encryption, without a sender, from one, or from one that is hidden. -/
theorem nested_of_encryptFor {encryptOptions : EncryptOptions} {sender fromKid : Option String}
    {s : Stack} {options : UnpackOptions} {value : Json}
    (encrypts : a.encryptFor payload recipient sender encryptOptions e =
      .ok ((text, toKids, fromKid), e'))
    (receives : b.Receives a recipient toKids (a.Uses e fromKid))
    (known : ∀ kid ∈ fromKid, b.Knows a kid)
    (nested : Nested b options payload s.layers value) (within : s.Within .auth)
    (stays : b.carriedOn? options payload = .ok none) :
    ∃ s' : Stack, Nested b options text s'.layers value ∧ s'.forwards = [] ∧
      2 ≤ (Utf8.encode text).length ∧ s'.metadata = { s.metadata with
        encrypted := true
        authenticated := sender.isSome || s.metadata.authenticated
        anonymousSender := sender.isNone || encryptOptions.protectSender
        encryptedTo := some (b.keyring.held toKids)
        encryptedFrom := fromKid
        authAlgorithm := sender.map fun _ => encryptOptions.authAlgorithm
        anonAlgorithm := if sender.isNone || encryptOptions.protectSender then
          some encryptOptions.anonAlgorithm else none } := by
  obtain ⟨noForwards, noAnon, noAuth⟩ := within
  unfold encryptFor at encrypts
  cases sender with
  | none =>
      obtain ⟨keys, found, encrypts⟩ := Drawn.lift_bind_eq_ok_iff.mp encrypts
      obtain ⟨j, between, anoncrypts, encrypts⟩ := Drawn.bind_eq_ok_iff.mp encrypts
      obtain ⟨made, rfl⟩ := Drawn.pure_eq_ok_iff.mp encrypts
      cases made
      obtain ⟨all, allFound, listed⟩ := anoncryptKeys_sound found
      obtain ⟨o, outerNested, kids⟩ := nested_of_anoncrypt anoncrypts
        (keeps_of_receives receives allFound listed) (fun k => .inl) nested ⟨noForwards, noAnon⟩
        stays
      refine ⟨_, outerNested, noForwards, Json.two_le_length_text _, ?_⟩
      rw [Stack.metadata_push_anon noAnon, kids]
      simp [Stack.metadata, noForwards, noAnon, noAuth]
  | some sender =>
      obtain ⟨⟨key, keys⟩, found, encrypts⟩ := Drawn.lift_bind_eq_ok_iff.mp encrypts
      obtain ⟨j, between, authcrypts, encrypts⟩ := Drawn.bind_eq_ok_iff.mp encrypts
      obtain ⟨own, all, allFound, listed⟩ := authcryptKeys_sound found
      cases protect : encryptOptions.protectSender with
      | false =>
          simp only [protect] at encrypts
          obtain ⟨made, rfl⟩ := Drawn.pure_eq_ok_iff.mp encrypts
          cases made
          obtain ⟨published, publishedFound, same⟩ := known key.id rfl key own
          obtain ⟨-, o, outerNested, -, kids⟩ := nested_of_authcrypt authcrypts
            (keeps_of_receives receives allFound listed) (uses_of_sender own) publishedFound same
            nested ⟨noForwards, noAnon, noAuth⟩
          refine ⟨_, outerNested, noForwards, Json.two_le_length_text _, ?_⟩
          rw [Stack.metadata_push_auth, kids]
          simp [Stack.metadata, noForwards, noAnon]
      | true =>
          simp only [protect] at encrypts
          obtain ⟨outer, afterOuter, anoncrypts, encrypts⟩ := Drawn.bind_eq_ok_iff.mp encrypts
          obtain ⟨made, rfl⟩ := Drawn.pure_eq_ok_iff.mp encrypts
          cases made
          obtain ⟨published, publishedFound, same⟩ := known key.id rfl key own
          have keeps := keeps_of_receives receives allFound listed
          obtain ⟨octet, o, innerNested, innerStays, kids⟩ := nested_of_authcrypt authcrypts keeps
            (uses_of_sender own) publishedFound same nested ⟨noForwards, noAnon, noAuth⟩
          have given : ∀ k, between.Gives k → a.Uses e (some key.id) k :=
            fun k drawn => .inl (drawn.of_octet octet)
          obtain ⟨o', outerNested, -⟩ := nested_of_anoncrypt anoncrypts keeps given innerNested
            ⟨noForwards, noAnon⟩ innerStays
          have alone : (s.push (.auth encryptOptions.authAlgorithm key.id o)).anon = none := noAnon
          refine ⟨_, outerNested, noForwards, Json.two_le_length_text _, ?_⟩
          rw [Stack.metadata_push_anon alone, Stack.metadata_push_auth, kids]
          simp [Stack.metadata, noForwards, noAnon]

/-- The sender's side after the checks, and the receiver's: the metadata tell what was done. -/
theorem unpack_of_encryptFor {m : Message} {options : EncryptOptions}
    {plainOptions : UnpackOptions} {plain : String}
    {sender signer fromKid signKid : Option String} {d : Metadata}
    (survives : b.unpack plain plainOptions = .ok ⟨m, d⟩)
    (received : Envelope.ofText plain = .ok (.plain value))
    (notForward : Forward.ofMessage? m = none)
    (made : a.payload plain signer = .ok (payload, signKid))
    (encrypts : a.encryptFor payload recipient sender options e =
      .ok ((text, toKids, fromKid), e'))
    (receives : b.Receives a recipient toKids (a.Uses e fromKid))
    (encryptedBy : ∀ kid ∈ fromKid, m.sender = some (Did.ofUrl kid) ∧ b.Knows a kid)
    (signedBy : ∀ kid ∈ signKid, m.sender = some (Did.ofUrl kid) ∧ b.Knows a kid ∧
      a.SignsFor plain kid)
    (unpackOptions : UnpackOptions) :
    b.unpack text unpackOptions = .ok ⟨m, {
      encrypted := true
      authenticated := sender.isSome || signer.isSome
      nonRepudiation := signer.isSome
      anonymousSender := sender.isNone || options.protectSender
      reWrapped := false
      encryptedTo := some (b.keyring.held toKids)
      encryptedFrom := fromKid
      signFrom := signKid
      rotationKid := d.rotationKid
      authAlgorithm := sender.map fun _ => options.authAlgorithm
      anonAlgorithm := if sender.isNone || options.protectSender then
        some options.anonAlgorithm else none
      signAlgorithm := signKid.bind a.algorithmOf?
      signedText := signKid.map fun _ => payload
      rotationJwt := d.rotationJwt }⟩ := by
  have read := read_of_unpack received survives
  have stays : b.carriedOn? unpackOptions plain = .ok none :=
    carriedOn?_of_not_forward received read (by
      rw [Forward.ofMessage?_rotation, notForward, Option.map_none])
  obtain ⟨inner, innerNested, within, innerStays, innerMetadata⟩ := nested_of_payload made received
    stays fun kid signed => (signedBy kid signed).2
  obtain ⟨outer, nested, noForwards, long, metadata⟩ := nested_of_encryptFor encrypts receives
    (fun kid sent => (encryptedBy kid sent).2) innerNested within innerStays
  rw [innerMetadata] at metadata
  have enough : outer.layers.length < layerLimit text := by
    have atMost := outer.kernel_length_le
    rw [Stack.layers, noForwards, List.map_nil, List.nil_append, layerLimit]
    omega
  have unpacked := unpack_of_nested survives received nested enough
    (by rw [metadata]; exact fun kid sent => (encryptedBy kid sent).1)
    (by rw [metadata]; exact fun kid signed => (signedBy kid signed).1)
  rw [unpacked, metadata]

/-! Two parties who know each other, of whom one had another DID before. -/

def aliceKey : Key :=
  .pair .x25519 "did:example:alice#1" (X25519.publicKey (List.replicate 32 1)) (List.replicate 32 1)

def aliceSigner : Key :=
  .pair .ed25519 "did:example:alice#2" (Ed25519.publicKey (List.replicate 32 2))
    (List.replicate 32 2)

def annKey : Key :=
  .pair .ed25519 "did:example:ann#1" (Ed25519.publicKey (List.replicate 32 5))
    (List.replicate 32 5)

def bobKey : Key :=
  .pair .x25519 "did:example:bob#1" (X25519.publicKey (List.replicate 32 3)) (List.replicate 32 3)

def aliceDocument : Document where
  id := "did:example:alice"
  keyAgreement := ["did:example:alice#1"]
  authentication := ["did:example:alice#2"]
  methods := [aliceKey.method "did:example:alice", aliceSigner.method "did:example:alice"]
  services := []

def bobDocument : Document where
  id := "did:example:bob"
  keyAgreement := ["did:example:bob#1"]
  authentication := []
  methods := [bobKey.method "did:example:bob"]
  services := []

def annDocument : Document where
  id := "did:example:ann"
  keyAgreement := []
  authentication := ["did:example:ann#1"]
  methods := [annKey.method "did:example:ann"]
  services := []

def parties : Directory := .ofDocuments [aliceDocument, bobDocument, annDocument]

def alice : Agent :=
  ⟨parties, .ofSecrets [aliceKey.secret, aliceSigner.secret, annKey.secret]⟩

def bob : Agent := ⟨parties, .ofSecrets [bobKey.secret]⟩

def stream : Entropy := .ofStream fun _ => 4

theorem key_aliceKey : alice.keyring.key "did:example:alice#1" = .ok aliceKey :=
  Key.ofSecret_pair rfl (X25519.length_publicKey _) List.length_replicate

theorem key_aliceSigner : alice.keyring.key "did:example:alice#2" = .ok aliceSigner :=
  Key.ofSecret_pair rfl (Ed25519.length_publicKey _) List.length_replicate

theorem key_annKey : alice.keyring.key "did:example:ann#1" = .ok annKey :=
  Key.ofSecret_pair rfl (Ed25519.length_publicKey _) List.length_replicate

theorem signingKey_alice : alice.signingKey "did:example:alice" = .ok aliceSigner :=
  bind_eq_ok_iff.mpr ⟨"did:example:alice#2", rfl, key_aliceSigner⟩

theorem exists_sign_aliceSigner (payload : Bytes) : ∃ j, Jws.sign payload aliceSigner = .ok j :=
  ⟨_, Jws.sign_eq_ok rfl (Key.d_pair List.length_replicate) rfl⟩

theorem key_bobKey : bob.keyring.key "did:example:bob#1" = .ok bobKey :=
  Key.ofSecret_pair rfl (X25519.length_publicKey _) List.length_replicate

theorem knows_aliceKey : bob.Knows alice "did:example:alice#1" := by
  intro key found
  obtain rfl := Except.ok.inj (found.symm.trans key_aliceKey)
  refine ⟨aliceKey.toPublic, verificationKey_eq_ok_iff.mpr ?_, Key.samePoint_of_jwk rfl rfl rfl⟩
  exact ⟨by decide, aliceDocument, _, rfl, rfl,
    Key.ofMethod_pair rfl (X25519.length_publicKey _) List.length_replicate _⟩

theorem knows_aliceSigner : bob.Knows alice "did:example:alice#2" := by
  intro key found
  obtain rfl := Except.ok.inj (found.symm.trans key_aliceSigner)
  refine ⟨aliceSigner.toPublic, verificationKey_eq_ok_iff.mpr ?_, Key.samePoint_of_jwk rfl rfl rfl⟩
  exact ⟨by decide, aliceDocument, _, rfl, rfl,
    Key.ofMethod_pair rfl (Ed25519.length_publicKey _) List.length_replicate _⟩

theorem recipientKeys_bob : alice.recipientKeys "did:example:bob" = .ok [bobKey.toPublic] := by
  refine bind_eq_ok_iff.mpr ⟨bobDocument, rfl, ?_⟩
  refine bind_eq_ok_iff.mpr ⟨[bobKey.method "did:example:bob"], rfl, ?_⟩
  exact mapM_eq_ok_iff.mpr
    (.cons (Key.ofMethod_pair rfl (X25519.length_publicKey _) List.length_replicate _) .nil)

theorem authcryptKeys_alice_bob :
    alice.authcryptKeys "did:example:alice" "did:example:bob" =
      .ok (aliceKey, [bobKey.toPublic]) := by
  refine bind_eq_ok_iff.mpr ⟨aliceDocument, rfl, bind_eq_ok_iff.mpr ⟨_, recipientKeys_bob, ?_⟩⟩
  refine bind_eq_ok_iff.mpr ⟨["did:example:alice#1"], rfl,
    bind_eq_ok_iff.mpr ⟨some (aliceKey, [bobKey.toPublic]), ?_, rfl⟩⟩
  exact bind_eq_ok_iff.mpr ⟨aliceKey, key_aliceKey, rfl⟩

theorem take_stream {before : Entropy} (octet : before.octet = stream.octet) :
    (before.take 32).1 = List.replicate 32 4 := by
  rw [Entropy.take, octet]
  rfl

theorem commutes_bobKey (k : Key) (used : alice.Uses stream (some "did:example:alice#1") k) :
    k.Commutes bobKey := by
  rcases used with ⟨curve, before, after, octet, drawn⟩ | ⟨kid, isSender, found⟩
  · obtain ⟨-, onCurve, -⟩ := Key.ephemeral_sound drawn
    by_cases other : curve = .x25519
    · rw [other, Key.ephemeral_x25519, take_stream octet] at drawn
      obtain ⟨rfl, -⟩ := Prod.mk.inj (Except.ok.inj drawn)
      exact Key.commutes_pair (X25519.length_publicKey _) List.length_replicate
        (X25519.length_publicKey _) List.length_replicate (by decide +kernel)
    · exact fun z agrees => absurd (onCurve.symm.trans (Key.curve_of_agree agrees)) other
  · obtain rfl := Option.mem_some.mp isSender
    obtain rfl := Except.ok.inj (found.symm.trans key_aliceKey)
    exact Key.commutes_pair (X25519.length_publicKey _) List.length_replicate
      (X25519.length_publicKey _) List.length_replicate (by decide +kernel)

theorem receives_bob :
    bob.Receives alice "did:example:bob" ["did:example:bob#1"]
      (alice.Uses stream (some "did:example:alice#1")) where
  holds := ⟨_, List.mem_cons_self, rfl⟩
  secrets := by
    intro keys found key listed _ _
    obtain rfl := Except.ok.inj (found.symm.trans recipientKeys_bob)
    obtain rfl := List.mem_singleton.mp listed
    exact ⟨bobKey, key_bobKey, Key.samePoint_of_jwk rfl rfl rfl, commutes_bobKey⟩

theorem signsFor_invitation : alice.SignsFor invitation.json.text "did:example:alice#2" := by
  refine signsFor_of_signs key_aliceSigner (Key.signs_pair List.length_replicate)
    (.edDsa List.length_replicate ?_)
  simp only [Jws.signedText, Jws.headerText, encode_signingInput, Json.encode_text]
  decide +kernel

theorem agree_bobKey (id : String) (octet : UInt8)
    (contributes : X25519.agree (List.replicate 32 octet)
      (X25519.publicKey (List.replicate 32 3)) ≠ Bytes.zeros 32) :
    ∃ z, (Key.pair .x25519 id (X25519.publicKey (List.replicate 32 octet))
      (List.replicate 32 octet)).agree bobKey.toPublic = .ok z :=
  Key.exists_agree_uniform id "did:example:bob#1" contributes

theorem encrypt_stream {before : Entropy} (octet : before.octet = stream.octet) (payload : Bytes)
    (enc : ContentAlgorithm) (sized : Jwe.Sized alg sender)
    (own : ∀ key ∈ sender, key = aliceKey) :
    ∃ j after, Jwe.encrypt payload alg enc sender [bobKey.toPublic] before = .ok (j, after) ∧
      after.octet = stream.octet := by
  have drawn := Key.ephemeral_x25519 before
  rw [take_stream octet] at drawn
  have curves : ∀ key ∈ [bobKey.toPublic] ++ sender.toList, key.curve = .x25519 := by
    intro key member
    rcases List.mem_cons.mp member with rfl | isSender
    · rfl
    · rw [own key (Option.mem_toList.mp isSender)]
      rfl
  have agrees : ∀ key ∈ [bobKey.toPublic], ∃ z, Jwe.sharedBySender (.pair .x25519 ""
      (X25519.publicKey (List.replicate 32 4)) (List.replicate 32 4)) sender key = .ok z := by
    intro key listed
    obtain rfl := List.mem_singleton.mp listed
    obtain ⟨z, ephemeral⟩ := agree_bobKey "" 4 (by decide +kernel)
    cases sender with
    | none => exact ⟨z, bind_eq_ok_iff.mpr ⟨z, ephemeral, rfl⟩⟩
    | some sender =>
        obtain rfl := own sender rfl
        obtain ⟨z', static⟩ := agree_bobKey "did:example:alice#1" 1 (by decide +kernel)
        exact ⟨z ++ z', bind_eq_ok_iff.mpr ⟨z, ephemeral, bind_eq_ok_iff.mpr ⟨z', static, rfl⟩⟩⟩
  obtain ⟨j, after, encrypts⟩ :=
    Jwe.encrypt_complete payload enc sized (List.cons_ne_nil _ _) curves drawn agrees
  exact ⟨j, after, encrypts, (Jwe.encrypt_sound encrypts).1.trans octet⟩

def hidden : EncryptOptions where
  protectSender := true
  forward := false

theorem encryptFor_hidden (payload : String) :
    ∃ j e', alice.encryptFor payload "did:example:bob" (some "did:example:alice") hidden stream =
      .ok ((Jwe.text j, ["did:example:bob#1"], some "did:example:alice#1"), e') := by
  obtain ⟨inner, between, authcrypts, octet⟩ := encrypt_stream rfl (Utf8.encode payload)
    AuthAlgorithm.usual.content (Jwe.sized_auth aliceKey (by decide)) (by simp)
  obtain ⟨outer, e', anoncrypts, -⟩ := encrypt_stream octet (Utf8.encode inner.text)
    AnonAlgorithm.usual.content Jwe.sized_anon (by simp)
  exact ⟨outer, e', Drawn.lift_bind_eq_ok_iff.mpr ⟨_, authcryptKeys_alice_bob,
    Drawn.bind_eq_ok_iff.mpr ⟨inner, between, authcrypts,
    Drawn.bind_eq_ok_iff.mpr ⟨outer, e', anoncrypts, rfl⟩⟩⟩⟩

theorem seals_hidden (plain : String) :
    ∃ payload j e',
      alice.payload plain (some "did:example:alice") =
        .ok (payload, some "did:example:alice#2") ∧
      alice.encryptFor payload "did:example:bob" (some "did:example:alice") hidden stream =
        .ok ((Jwe.text j, ["did:example:bob#1"], some "did:example:alice#1"), e') := by
  obtain ⟨j, signs⟩ := exists_sign_aliceSigner (Utf8.encode plain)
  have made : alice.payload plain (some "did:example:alice") =
      .ok (j.text, some "did:example:alice#2") :=
    bind_eq_ok_iff.mpr ⟨(j.text, "did:example:alice#2"), bind_eq_ok_iff.mpr ⟨aliceSigner,
      signingKey_alice, bind_eq_ok_iff.mpr ⟨j, signs, rfl⟩⟩, rfl⟩
  obtain ⟨outer, e', encrypts⟩ := encryptFor_hidden j.text
  exact ⟨j.text, outer, e', made, encrypts⟩

theorem unpack_invitation :
    bob.unpack invitation.json.text {} =
      .ok ⟨invitation, { rotationKid := none, rotationJwt := none }⟩ :=
  unpack_json canonical_invitation (Message.distinct_of_validate rfl) rfl
    legible_invitation_deepest (by simp [invitation]) (by simp [Message.Plain, invitation])

theorem encryptedBy_alice (kid : String) (sent : kid ∈ some "did:example:alice#1") :
    invitation.sender = some (Did.ofUrl kid) ∧ bob.Knows alice kid := by
  obtain rfl := Option.mem_some.mp sent
  exact ⟨rfl, knows_aliceKey⟩

theorem signedBy_alice (kid : String) (signed : kid ∈ some "did:example:alice#2") :
    invitation.sender = some (Did.ofUrl kid) ∧ bob.Knows alice kid ∧
      alice.SignsFor invitation.json.text kid := by
  obtain rfl := Option.mem_some.mp signed
  exact ⟨rfl, knows_aliceSigner, signsFor_invitation⟩

theorem algorithmOf?_aliceSigner : alice.algorithmOf? "did:example:alice#2" = some .edDsa := by
  rw [algorithmOf?, key_aliceSigner]
  rfl

/-- The invitation, signed, encrypted and hidden, as its recipient unpacks it. -/
theorem unpack_hidden_invitation (options : UnpackOptions) :
    ∃ payload j, bob.unpack (Jwe.text j) options = .ok ⟨invitation, {
      encrypted := true
      authenticated := true
      nonRepudiation := true
      anonymousSender := true
      encryptedTo := some ["did:example:bob#1"]
      encryptedFrom := some "did:example:alice#1"
      signFrom := some "did:example:alice#2"
      authAlgorithm := some .usual
      anonAlgorithm := some .usual
      signAlgorithm := some .edDsa
      signedText := some payload }⟩ := by
  obtain ⟨payload, j, e', made, encrypts⟩ := seals_hidden invitation.json.text
  obtain ⟨value, received, -⟩ := plain_of_unpack unpack_invitation
  have unpacked := unpack_of_encryptFor unpack_invitation received rfl made encrypts receives_bob
    encryptedBy_alice signedBy_alice options
  rw [Option.bind_some, algorithmOf?_aliceSigner] at unpacked
  exact ⟨payload, j, unpacked⟩

theorem exists_unpack_invitation :
    ∃ text u, bob.unpack text {} = .ok u ∧ u.message = invitation ∧
      u.metadata.authenticated = true ∧
      u.metadata.encryptedFrom = some "did:example:alice#1" ∧
      u.metadata.signFrom = some "did:example:alice#2" := by
  obtain ⟨payload, j, unpacked⟩ := unpack_hidden_invitation {}
  exact ⟨j.text, _, unpacked, rfl, rfl, rfl, rfl⟩

end DidMessaging.Agent
