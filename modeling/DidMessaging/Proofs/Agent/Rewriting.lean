import DidMessaging.Proofs.Agent.Encrypted
import DidMessaging.Proofs.Agent.Peeling
import DidMessaging.Proofs.Json.Rewriting

namespace DidMessaging

open Result

/-! Envelopes. -/

section

open Json

namespace Jws

theorem Signature.stable_readKid? : Stable Signature.readKid? := by
  intro t t' kid written read
  obtain ⟨fields, fieldsRead, kidRead⟩ := Option.bind_eq_some_iff.mp read
  obtain ⟨fields', fieldsRead', same⟩ := Fields.read?_rewritten written fieldsRead
  exact Option.bind_eq_some_iff.mpr
    ⟨fields', fieldsRead', same.required? (by simp) stable_string? kidRead⟩

theorem Signature.stable_read? : Stable Signature.read? := by
  intro t t' s written read
  simp only [Signature.read?, Option.bind_eq_bind, Option.bind_eq_some_iff, Option.pure_def,
    Option.some.injEq] at read ⊢
  obtain ⟨fields, fieldsRead, header, headerRead, signature, signatureRead, kid, kidRead, rfl⟩ :=
    read
  obtain ⟨fields', fieldsRead', same⟩ := Fields.read?_rewritten written fieldsRead
  exact ⟨fields', fieldsRead', header, same.required? (by simp) stable_string? headerRead,
    signature, same.required? (by simp) stable_string? signatureRead,
    kid, same.required? (by simp) stable_readKid? kidRead, rfl⟩

theorem stable_read? : Stable Jws.read? := by
  intro t t' j written read
  simp only [Jws.read?, Option.bind_eq_bind, Option.bind_eq_some_iff, Option.pure_def,
    Option.some.injEq] at read ⊢
  obtain ⟨fields, fieldsRead, payload, payloadRead, signatures, signaturesRead, rfl⟩ := read
  obtain ⟨fields', fieldsRead', same⟩ := Fields.read?_rewritten written fieldsRead
  exact ⟨fields', fieldsRead', payload, same.required? (by simp) stable_string? payloadRead,
    signatures, same.required? (by simp) Signature.stable_read?.list? signaturesRead, rfl⟩

end Jws

namespace Jwe

theorem Recipient.stable_read? : Stable Recipient.read? := by
  intro t t' r written read
  simp only [Recipient.read?, Option.bind_eq_bind, Option.bind_eq_some_iff, Option.pure_def,
    Option.some.injEq] at read ⊢
  obtain ⟨fields, fieldsRead, kid, kidRead, encryptedKey, encryptedKeyRead, rfl⟩ := read
  obtain ⟨fields', fieldsRead', same⟩ := Fields.read?_rewritten written fieldsRead
  have stableKid : Stable readKid? := Jws.Signature.stable_readKid?
  exact ⟨fields', fieldsRead', kid, same.required? (by simp) stableKid kidRead,
    encryptedKey, same.required? (by simp) stable_string? encryptedKeyRead, rfl⟩

theorem stable_read? : Stable Jwe.read? := by
  intro t t' j written read
  simp only [Jwe.read?, Option.bind_eq_bind, Option.bind_eq_some_iff, Option.pure_def,
    Option.some.injEq] at read ⊢
  obtain ⟨fields, fieldsRead, header, headerRead, recipients, recipientsRead, iv, ivRead,
    ciphertext, ciphertextRead, tag, tagRead, rfl⟩ := read
  obtain ⟨fields', fieldsRead', same⟩ := Fields.read?_rewritten written fieldsRead
  have text {name value : String} (listed : name ∈ fieldNames)
      (found : fields.required? name (·.string?) = some value) :
      fields'.required? name (·.string?) = some value :=
    same.required? listed stable_string? found
  exact ⟨fields', fieldsRead', header, text (by simp [fieldNames]) headerRead,
    recipients, same.required? (by simp [fieldNames]) Recipient.stable_read?.list? recipientsRead,
    iv, text (by simp [fieldNames]) ivRead, ciphertext, text (by simp [fieldNames]) ciphertextRead,
    tag, text (by simp [fieldNames]) tagRead, rfl⟩

end Jwe

variable {text : String} {value : Json}

theorem Envelope.ofText_jwe_ne_signed {j : Jwe} {j' : Jws} : ofText j.text ≠ .ok (.signed j') := by
  intro received
  obtain ⟨members, read, names⟩ := Json.read?_text_object (by simp [Members.names]) j.whole_json
    j.depth_json
  have recipients : "recipients" ∈ Members.names members :=
    (names _).mpr (by simp [Members.names])
  rw [Jwe.text, Jwe.json, ofText_of_object read, if_pos (List.contains_iff_mem.mpr recipients)]
    at received
  obtain ⟨r, -, different⟩ := map_eq_ok_iff.mp received
  cases different

theorem Jws.parse_rewritten {j : Jws} (read : Json.read? text = some value) (same : value.Exact)
    (parsed : parse text = .ok j) :
    parse value.text = .ok j := by
  obtain ⟨found, listed⟩ := parse_eq_ok_iff.mp parsed
  exact parse_eq_ok_iff.mpr ⟨stable_read?.read read same found, listed⟩

theorem Jwe.parse_rewritten {r : Received} (read : Json.read? text = some value)
    (same : value.Exact) (parsed : parse text = .ok r) :
    parse value.text = .ok r := by
  obtain ⟨found, decoded⟩ := parse_eq_ok_iff.mp parsed
  exact parse_eq_ok_iff.mpr ⟨stable_read?.read read same found, decoded⟩

theorem Envelope.ofText_rewritten {envelope : Envelope} (read : Json.read? text = some value)
    (same : value.Exact) (received : ofText text = .ok envelope) :
    ofText value.text = .ok envelope := by
  obtain ⟨members, object⟩ := object_of_ofText received
  obtain rfl := Option.some.inj (read.symm.trans object)
  have again := read?_text_of_read? read same
  rw [ofText_of_object read] at received
  rw [ofText_of_object again]
  split at received
  · next recipients =>
      obtain ⟨r, parsed, rfl⟩ := map_eq_ok_iff.mp received
      rw [if_pos recipients, Jwe.parse_rewritten read same parsed]
      rfl
  · next noRecipients =>
      rw [if_neg noRecipients]
      split at received
      · next signatures =>
          obtain ⟨j, parsed, rfl⟩ := map_eq_ok_iff.mp received
          rw [if_pos signatures, Jws.parse_rewritten read same parsed]
          rfl
      · next noSignatures => rw [if_neg noSignatures, received]

end

/-! Unpacking. -/

theorem Nested.received {a : Agent} {options : UnpackOptions} {text : String}
    (nested : Nested a options text layers value) :
    ∃ envelope, Envelope.ofText text = .ok envelope := by
  cases nested with
  | plain received => exact ⟨_, received⟩
  | layer opens nested => cases opens <;> exact ⟨_, ‹_›⟩

/-- The signed text that the metadata tell of, or, where that is the text received, another one. -/
def Metadata.SignedAs (d : Metadata) (text again : String) (signedText : Option String) : Prop :=
  signedText = d.signedText ∨ d.signedText = some text ∧ signedText = some again

namespace Agent

variable {a : Agent} {options : UnpackOptions} {text again : String}

/-- A text is only looked at as the envelope that it is, except that a signed one is kept. -/
theorem unwrapFrom_congr (same : Envelope.ofText again = Envelope.ofText text)
    (notSigned : ∀ j, Envelope.ofText text ≠ .ok (.signed j)) (fuel : Nat) (outer : Outer) :
    a.unwrapFrom options fuel outer again = a.unwrapFrom options fuel outer text := by
  cases fuel with
  | zero => rfl
  | succ fuel =>
      cases received : Envelope.ofText text with
      | error e => simp only [unwrapFrom, same, received, Fuelled.lift_error_bind]
      | ok envelope =>
          cases envelope with
          | signed j => exact absurd received (notSigned j)
          | plain value | encrypted r =>
              simp only [unwrapFrom, same, received, Fuelled.lift_ok_bind]

theorem unwrap_congr (same : Envelope.ofText again = Envelope.ofText text)
    (notSigned : ∀ j, Envelope.ofText text ≠ .ok (.signed j)) :
    a.unwrap options again = a.unwrap options text := by
  have enough : burden text < burden text + burden again + 1 := by omega
  have enoughAgain : burden again < burden text + burden again + 1 := by omega
  refine Option.some.inj ?_
  rw [← a.unwrap_eq options enough, ← a.unwrap_eq options enoughAgain,
    unwrapFrom_congr same notSigned]

theorem unwrap_of_signed {j : Jws} (received : Envelope.ofText text = .ok (.signed j)) :
    a.unwrap options text = (do
      let signers ← a.checkSignatures j
      let (message, proof) ← openSigned j
      return { layers := [.signed text j signers], message, proof }) := by
  refine Option.some.inj ?_
  rw [← a.unwrap_eq options (Nat.lt_succ_self (burden text))]
  simp only [unwrapFrom, received, Fuelled.lift_ok_bind]
  cases a.checkSignatures j with
  | error e => rfl
  | ok signers => cases openSigned j <;> rfl

theorem settleRotation_of_signed {j : Jws} {signers : List (String × SignatureAlgorithm)}
    (settled : a.settleRotation ⟨[.signed text j signers], m, proof⟩ = .ok u) (again : String) :
    a.settleRotation ⟨[.signed again j signers], m, proof⟩ =
      .ok { u with metadata := { u.metadata with signedText := some again } } := by
  let stack (t : String) : Stack := { signed := some (t, j, signers) }
  have settles (t : String) : a.settleRotation ⟨(stack t).layers, m, proof⟩ =
      .ok ⟨u.message, { (stack t).metadata with
        rotationKid := u.metadata.rotationKid
        rotationJwt := u.metadata.rotationJwt }⟩ :=
    settleRotation_stack (s := stack text) settled
  have metadata := congrArg Unpacked.metadata (Except.ok.inj (settled.symm.trans (settles text)))
  refine (settles again).trans ?_
  rw [metadata]
  rfl

theorem signedText_of_signed {j : Jws} {signers : List (String × SignatureAlgorithm)}
    (settled : a.settleRotation ⟨[.signed text j signers], m, proof⟩ = .ok u) :
    u.metadata.signedText = some text :=
  congrArg (·.metadata.signedText)
    (Except.ok.inj (settled.symm.trans (settleRotation_of_signed settled text)))

theorem unwrap_signed {j : Jws} (received : Envelope.ofText text = .ok (.signed j))
    (checked : a.checkSignatures j = .ok signers) (opened : openSigned j = .ok (m, proof)) :
    a.unwrap options text = .ok ⟨[.signed text j signers], m, proof⟩ := by
  rw [unwrap_of_signed received]
  exact bind_eq_ok_iff.mpr ⟨signers, checked, bind_eq_ok_iff.mpr ⟨_, opened, rfl⟩⟩

/-- Of texts with the same signed envelope the same is unpacked, but for the text that is kept. -/
theorem unpack_of_signed {j : Jws} (received : Envelope.ofText text = .ok (.signed j))
    (receivedAgain : Envelope.ofText again = .ok (.signed j))
    (unpacked : a.unpack text options = .ok u) :
    u.metadata.signedText = some text ∧ a.unpack again options =
      .ok { u with metadata := { u.metadata with signedText := some again } } := by
  obtain ⟨w, unwrapped, settled, senders⟩ := unpack_eq_ok_iff.mp unpacked
  rw [unwrap_of_signed received] at unwrapped
  obtain ⟨signers, checked, unwrapped⟩ := bind_eq_ok_iff.mp unwrapped
  obtain ⟨⟨m, proof⟩, opened, unwrapped⟩ := bind_eq_ok_iff.mp unwrapped
  cases pure_eq_ok_iff.mp unwrapped
  exact ⟨signedText_of_signed settled, unpack_eq_ok_iff.mpr ⟨_,
    unwrap_signed receivedAgain checked opened, settleRotation_of_signed settled again, senders⟩⟩

theorem unpack_congr (same : Envelope.ofText again = Envelope.ofText text)
    (notSigned : ∀ j, Envelope.ofText text ≠ .ok (.signed j)) :
    a.unpack again options = a.unpack text options := by
  rw [unpack, unwrap_congr same notSigned]
  rfl

theorem received_of_unpack (unpacked : a.unpack text options = .ok u) :
    ∃ envelope, Envelope.ofText text = .ok envelope := by
  obtain ⟨w, unwrapped, -⟩ := unpack_eq_ok_iff.mp unpacked
  obtain ⟨s, wire, -, nested, -⟩ := unwrap_sound unwrapped
  exact nested.received

/-- What is unpacked from a text is unpacked from the value in it, however that is written. -/
theorem unpack_rewritten {value : Json} (unpacked : a.unpack text options = .ok u)
    (read : Json.read? text = some value) (same : value.Exact) :
    ∃ signedText, u.metadata.SignedAs text value.text signedText ∧
      a.unpack value.text options =
        .ok { u with metadata := { u.metadata with signedText } } := by
  obtain ⟨envelope, received⟩ := received_of_unpack unpacked
  have receivedAgain := Envelope.ofText_rewritten read same received
  by_cases signed : ∃ j, envelope = .signed j
  · obtain ⟨j, rfl⟩ := signed
    obtain ⟨kept, again⟩ := unpack_of_signed received receivedAgain unpacked
    exact ⟨some value.text, .inr ⟨kept, rfl⟩, again⟩
  · have notSigned (j : Jws) : Envelope.ofText text ≠ .ok (.signed j) := by
      rw [received]
      rintro ⟨rfl⟩
      exact signed ⟨j, rfl⟩
    refine ⟨u.metadata.signedText, .inl rfl, ?_⟩
    exact (unpack_congr (receivedAgain.trans received.symm) notSigned).trans unpacked

/-- A message that was unpacked is unpacked alike after a mediator has read it as a value and
written it anew, when each number in it is read back as itself, as whole ones always are. A signed
text is kept as it was received last. -/
theorem unpack_reprinted (unpacked : a.unpack text options = .ok u) :
    ∃ value, Json.read? text = some value ∧ (value.Exact →
      ((∀ j, Envelope.ofText text ≠ .ok (.signed j)) → a.unpack value.text options = .ok u) ∧
      ∀ j, Envelope.ofText text = .ok (.signed j) → u.metadata.signedText = some text ∧
        a.unpack value.text options =
          .ok { u with metadata := { u.metadata with signedText := some value.text } }) := by
  obtain ⟨envelope, received⟩ := received_of_unpack unpacked
  obtain ⟨members, read⟩ := Envelope.object_of_ofText received
  refine ⟨.object members, read, ?_⟩
  intro same
  have receivedAgain := Envelope.ofText_rewritten read same received
  constructor
  · intro notSigned
    exact (unpack_congr (receivedAgain.trans received.symm) notSigned).trans unpacked
  · intro j signed
    rw [received.symm.trans signed] at receivedAgain
    exact unpack_of_signed signed receivedAgain unpacked

/-- The encrypted envelope, whose members come sorted from the mediator. -/
theorem unpack_reprinted_invitation :
    ∃ text value u, bob.unpack text {} = .ok u ∧ Json.read? text = some value ∧
      bob.unpack value.text {} = .ok u ∧ u.message = invitation ∧
      u.metadata.encryptedFrom = some "did:example:alice#1" := by
  obtain ⟨payload, j, unpacked⟩ := unpack_hidden_invitation {}
  obtain ⟨value, read, again⟩ := unpack_reprinted unpacked
  have sorted : Json.read? j.text = some j.json.sorted := Json.read?_text j.whole_json j.depth_json
  obtain rfl : value = j.json.sorted := Option.some.inj (read.symm.trans sorted)
  obtain ⟨same, -⟩ := again (Json.exact_of_whole (Json.whole_sorted j.whole_json))
  exact ⟨j.text, _, _, unpacked, read, same fun _ => Envelope.ofText_jwe_ne_signed, rfl, rfl⟩

end Agent

end DidMessaging
