import DidMessaging.Proofs.Agent.Authenticity
import DidMessaging.Proofs.Envelope.Producer

namespace DidMessaging

open Result

/-- The keys by which a received envelope was opened, and the sender they were derived for. -/
structure Opened.DerivedFor (o : Opened) (r : Jwe.Received) (kid : String) : Prop where
  envelope : o.envelope = { r with header := { r.header with skid := some kid } }
  producer : r.Producer kid r.apu
  opened : ∃ key ∈ o.sender, ∃ recipient ∈ o.keys, ∃ opening : Jwe.Opening,
    opening.Yields o.envelope (some key) recipient r.apu o.payload
  bound : r.apu.getD [] = Utf8.encode kid ↔ r.header.apu.isSome = true

theorem Did.ne_empty_of_isUrl (isUrl : Did.isUrl kid = true) : kid ≠ "" := by
  rintro rfl
  contradiction

theorem Agent.openAuth_derivedFor {a : Agent} (received : Envelope.ofText text = .ok (.encrypted r))
    (opened : a.openAuth all outer r = .ok (sender, o)) : o.DerivedFor r sender := by
  have parsed := Envelope.encrypted_of_ofText received
  obtain ⟨withSender, ⟨key, published, isSender, recipient, held, decrypts⟩, named⟩ :=
    openAuth_sound opened
  obtain ⟨kid, found, envelope⟩ := bind_eq_ok_iff.mp withSender
  have envelope := (pure_eq_ok_iff.mp envelope).symm
  obtain rfl : kid = sender := by
    rw [envelope] at named
    exact Option.some.inj named
  have producer := (Jwe.Received.sender_eq_ok_iff parsed).mp found
  obtain ⟨opening, yields⟩ := Jwe.decrypt_eq_ok_iff.mp decrypts
  have apu : o.envelope.apu = r.apu := by rw [envelope]
  exact ⟨envelope, producer, ⟨key, isSender, recipient, held, opening, apu ▸ yields⟩,
    producer.octets_eq_iff (Did.ne_empty_of_isUrl published.isUrl)⟩

/-- The sender of an unpacked message is the one of the innermost envelope that has a sender. The
keys that opened it were derived for what `apu` decodes to, and that is the sender's id, octet by
octet, just when the header carries `apu`: if `skid` stands alone they were derived for no one. -/
theorem unpack_derivedFor {a : Agent} {options : UnpackOptions}
    (unpacked : a.unpack text options = .ok u) (sent : kid ∈ u.metadata.encryptedFrom) :
    ∃ w before algorithm o after outside r value,
      a.unwrap options text = .ok w ∧ w.layers = before ++ .auth algorithm kid o :: after ∧
      (∀ layer ∈ after, Stack.isAuth layer = false) ∧
      Nested a options outside (.auth algorithm kid o :: after) value ∧
      Envelope.ofText outside = .ok (.encrypted r) ∧ o.DerivedFor r kid := by
  obtain ⟨w, unwrapped, settled, -, -⟩ := Agent.unpack_eq_ok_iff.mp unpacked
  obtain ⟨s, value, layers, nested, read⟩ := Agent.unwrap_sound unwrapped
  obtain ⟨⟨rotationKid, metadata⟩, -⟩ :=
    Agent.settleRotation_frame layers (Message.rotation_of_ofWire read) settled
  have sender : kid ∈ s.metadata.encryptedFrom := by rwa [metadata] at sent
  obtain ⟨before, algorithm, o, after, outside, split, noAuth, inner, -⟩ :=
    s.auth_sound nested sender
  have opened := inner
  cases opened with
  | layer opens _ =>
      cases opens with
      | auth received found opened inside =>
          exact ⟨w, before, algorithm, o, after, outside, _, value, unwrapped, layers ▸ split,
            noAuth, inner, received, Agent.openAuth_derivedFor received opened⟩

/-! An envelope that names its sender by `skid` alone. -/

namespace Agent

theorem heldKeys_bob : bob.heldKeys ["did:example:bob#1", "did:example:bob#2"] = .ok [bobKey] :=
  mapM_eq_ok_iff.mpr (.cons key_bobKey .nil)

/-- Made by the sender, with the secret that she shares with the recipient. -/
theorem exists_unnamed (payload : Bytes) :
    ∃ r published, Envelope.ofText (Jwe.text r.jwe) = .ok (.encrypted r) ∧
      r.algorithm = .ok (.auth .usual) ∧ r.header.skid = some "did:example:alice#1" ∧
      r.header.apu = none ∧ r.apu = none ∧
      r.kids = ["did:example:bob#1", "did:example:bob#2"] ∧ r.checkRecipients = .ok () ∧
      bob.verificationKey "did:example:alice#1" = .ok published ∧ published.curve = .x25519 ∧
      r.decrypt (some published) bobKey = .ok payload := by
  obtain ⟨published, known, same⟩ := knows_aliceKey aliceKey key_aliceKey
  have own : ∀ key ∈ some aliceKey, key = Jwe.senderKey := by
    rintro _ ⟨⟩
    rfl
  obtain ⟨j, r₀, received, alg, enc, names, each⟩ := Jwe.exists_received_two payload
    AuthAlgorithm.usual.content Jwe.sized_senderKey own (.some same)
  obtain ⟨skid, -, -⟩ := names.authentic aliceKey rfl
  obtain ⟨-, -, -, -, consumers⟩ := Jwe.parse_eq_ok_iff.mp received
  obtain ⟨o, yields⟩ := Jwe.decrypt_eq_ok_iff.mp (each bobKey List.mem_cons_self)
  obtain ⟨r, parsed, header, apu, kids, decrypts⟩ := Jwe.exists_resealed
    (h := { r₀.header with apu := none }) yields rfl rfl consumers rfl (by rw [alg]; decide)
    (by decide) payload
  have named : r.algorithm = .ok (.auth .usual) := by
    rw [Jwe.Received.algorithm, header]
    simp only [alg, enc, EnvelopeAlgorithm.ofHeader_auth]
  have committed : r.checkRecipients = .ok () := by
    rw [← names.committed, Jwe.Received.checkRecipients, kids, header]
    rfl
  exact ⟨r, published, Envelope.ofText_jwe parsed, named, header ▸ skid, header ▸ rfl, apu,
    kids.trans names.kids, committed, known, same.curve, decrypts⟩

theorem opens_unnamed (options : UnpackOptions) (content : String) :
    ∃ text o, Opens bob options text (.auth .usual "did:example:alice#1" o) content ∧
      o.envelope.header.apu = none ∧ 1 < layerLimit text := by
  obtain ⟨r, published, received, named, skid, missing, apu, kids, committed, known, curve,
    decrypts⟩ := exists_unnamed (Utf8.encode content)
  have sender := (Jwe.Received.sender_of_skid apu).mpr skid
  have withSender : r.withSender = .ok r := by
    refine bind_eq_ok_iff.mpr ⟨_, sender, pure_eq_ok_iff.mpr ?_⟩
    rw [← skid]
  have keys : bob.authDecryptKeys "did:example:alice#1" r.kids = .ok (published, [bobKey]) :=
    authDecryptKeys_eq_ok_iff.mpr ⟨known, [bobKey], kids ▸ heldKeys_bob,
      List.filter_eq_self.mpr (by simp [curve, bobKey, Key.pair]), List.cons_ne_nil _ _⟩
  obtain ⟨kids', decrypted⟩ := Jwe.Received.decryptBy_complete options.allKeys
    (List.cons_ne_nil bobKey []) (List.forall_mem_singleton.mpr decrypts)
  have opened := Jwe.Received.authDecrypt_eq_ok_iff.mpr
    ⟨(verificationKey_sound known).id ▸ skid, committed, decrypted⟩
  refine ⟨r.jwe.text, ⟨r, some published, [bobKey], Utf8.encode content⟩,
    .auth received named ?_ ?_, missing, by rw [layerLimit]; omega⟩
  · exact openAuth_nothing_eq_ok_iff.mpr ⟨withSender, sender, published, rfl, keys, kids', opened⟩
  · rw [payloadText, Utf8.decode?_encode]

end Agent

/-- The keys are derived for no one, and the message is from a sender all the same. -/
theorem unpack_derivedFor_unnamed :
    ∃ text u outside r, ∃ o : Opened, Agent.bob.unpack text {} = .ok u ∧
      u.metadata.encryptedFrom = some "did:example:alice#1" ∧
      Envelope.ofText outside = .ok (.encrypted r) ∧ o.DerivedFor r "did:example:alice#1" ∧
      r.header.apu = none ∧ r.apu.getD [] ≠ Utf8.encode "did:example:alice#1" := by
  obtain ⟨text, o, opens, missing, enough⟩ := Agent.opens_unnamed {} Agent.invitation.json.text
  obtain ⟨value, received, read⟩ := Agent.plain_of_unpack Agent.unpack_invitation
  have nested : Nested Agent.bob {} text
      ({ auth := some (.usual, "did:example:alice#1", o) } : Stack).layers value :=
    .layer opens (.plain received)
  have unpacked := Agent.unpack_of_nested Agent.unpack_invitation received nested enough
    (fun kid sent => (Agent.encryptedBy_alice kid sent).1) (by simp [Stack.metadata])
  have unwrapped := Agent.unwrap_complete nested read enough
  obtain ⟨w, before, algorithm, o', after, outside, r, value', unwrapped', split, -, -, envelope,
    derived⟩ := unpack_derivedFor unpacked rfl
  obtain rfl := Except.ok.inj (unwrapped.symm.trans unwrapped')
  have only : o' = o := by
    cases before with
    | nil =>
        cases split
        rfl
    | cons layer before => simp [Stack.layers, Stack.kernel] at split
  have unnamed : r.header.apu = none := by
    rwa [← only, derived.envelope] at missing
  refine ⟨text, _, outside, r, o', unpacked, rfl, envelope, derived, unnamed, ?_⟩
  simp [derived.bound, unnamed]

end DidMessaging
