import DidMessaging.Proofs.Agent.Rewriting
import DidMessaging.Proofs.Agent.Rotation

namespace DidMessaging

open Result Json Json.Fields

/-! An envelope in the place of a proof. -/

/-- The compact text of one signature of an envelope. -/
def Jws.compactText (j : Jws) (s : Jws.Signature) : String :=
  signingInput (signingInput s.header j.payload) s.signature

theorem CompactJws.Header.read?_jws (h : Jws.Header) : read? (.ofJson h.json) = none := by
  obtain ⟨fields, read, written⟩ := read?_ofJson ["typ", "alg", "kid"] 3
    [("typ", .string h.typ), ("alg", .string h.alg)] (by simp)
  have typ : fields.required? "typ" (·.string?) = some h.typ :=
    written.required?_string (by simp) (by simp)
  have alg : fields.required? "alg" (·.string?) = some h.alg :=
    written.required?_string (by simp) (by simp)
  have noKid : fields.required? "kid" (·.string?) = none :=
    written.required?_eq_none (by simp) (by simp)
  simp only [read?, Jws.Header.json, read, typ, alg, noKid, Option.bind_eq_bind, Option.bind_some,
    Option.bind_none]

theorem CompactJws.Header.decode_jws (a : SignatureAlgorithm) :
    decodeBase64UrlJson read? (Jws.headerText a) = .error (.malformed .base64UrlJson) := by
  apply decodeBase64UrlJson_unread
  · simp [Jws.Header.json, Whole, WholeMembers]
  · simp [Jws.Header.json, depth, membersDepth, Tree.deepest]
  · exact read?_jws _

theorem CompactJws.parse_of_sign {payload : Bytes} {key : Key}
    (signs : Jws.sign payload key = .ok j) :
    ∃ s, j.signatures = [s] ∧ parse (j.compactText s) = .error (.malformed .base64UrlJson) := by
  obtain ⟨a, d, signature, -, -, -, rfl⟩ := Jws.sign_sound signs
  refine ⟨_, rfl, ?_⟩
  have noHeader : '.' ∉ (Jws.headerText a).toList := Base64Url.dot_notMem_encode _
  have parts := parts_compact noHeader (Base64Url.dot_notMem_encode payload)
    (Base64Url.dot_notMem_encode signature)
  simp only [parse, Jws.compactText, parts, CompactJws.Header.decode_jws]
  rfl

/-! A proof in the place of an envelope. -/

/-- The envelope of the parts of a compact text, under any kid. -/
def Jws.ofParts (header payload signature kid : String) : Jws :=
  ⟨payload, [⟨header, signature, kid⟩]⟩

theorem Jws.Header.read?_compact (h : CompactJws.Header) :
    read? (.ofJson h.json) = some ⟨h.typ, h.alg⟩ := by
  obtain ⟨fields, read, written⟩ := read?_ofJson ["typ", "alg"] 2
    [("typ", .string h.typ), ("alg", .string h.alg), ("kid", .string h.kid)] (by simp)
  have typ : fields.required? "typ" (·.string?) = some h.typ :=
    written.required?_string (by simp) (by simp)
  have alg : fields.required? "alg" (·.string?) = some h.alg :=
    written.required?_string (by simp) (by simp)
  simp only [read?, CompactJws.Header.json, read, typ, alg, Option.bind_eq_bind, Option.bind_some,
    Option.pure_def]

theorem Jws.Header.decode_compact (h : CompactJws.Header) :
    decodeBase64UrlJson read? (Base64Url.encode (Utf8.encode h.json.text)) =
      .ok ⟨h.typ, h.alg⟩ := by
  apply decodeBase64UrlJson_encode
  · simp [CompactJws.Header.json, Whole, WholeMembers]
  · simp [CompactJws.Header.json, depth, membersDepth, Tree.deepest]
  · exact read?_compact h

theorem Message.read?_eq_none {members : Members} (noId : "id" ∉ Members.names members) :
    read? (.ofJson (.object members)) = none := by
  cases read : read? (.ofJson (.object members)) with
  | none => rfl
  | some m =>
      unfold read? at read
      obtain ⟨⟨fields, others⟩, opened, read⟩ := Option.bind_eq_some_iff.mp read
      obtain ⟨id, found, -⟩ := Option.bind_eq_some_iff.mp read
      obtain ⟨members', membersRead, rfl, -⟩ := open?_eq_some opened
      rw [members?_ofJson] at membersRead
      obtain rfl := Option.some.inj membersRead
      rw [required?, Members.lookup_filter (by simp [reserved]), lookup_ofMembers,
        Members.lookup_eq_none noId] at found
      contradiction

theorem Message.ofWire_of_noId {members : Members} (noId : "id" ∉ Members.names members)
    (unrotated : rotationName ∉ Members.names members) :
    ofWire (.object members) = .error (.malformed .plaintext) := by
  have absent : Members.find? rotationName members = none := Members.lookup_eq_none unrotated
  have restNoId : "id" ∉ Members.names (members.filter (·.1 ≠ rotationName)) := by
    intro listed
    exact noId ((Members.names_sublist List.filter_sublist).subset listed)
  simp only [ofWire, absent]
  dsimp only [bind, Except.bind]
  rw [read?_eq_none restNoId]
  rfl

namespace Rotation

theorem names_json (r : Rotation) :
    ∃ members, r.json = .object members ∧ (Members.names members).Sublist fieldNames := by
  have names := (List.Sublist.refl ["iss", "sub"]).append
      (names_optional_sublist "aud" .string r.aud)
    |>.append (names_optional_sublist "exp" seconds r.exp)
    |>.append (names_optional_sublist "nbf" seconds r.nbf)
    |>.append (names_optional_sublist "iat" seconds r.iat)
    |>.append (names_optional_sublist "jti" .string r.jti)
  refine ⟨_, rfl, ?_⟩
  simp only [Members.names_append]
  exact names

/-- The text of claims looks like a message, but is none. -/
theorem received_json (r : Rotation) :
    ∃ value, Envelope.ofText r.json.text = .ok (.plain value) ∧
      Message.ofWire value = .error (.malformed .plaintext) := by
  obtain ⟨members, object, sublist⟩ := r.names_json
  have legible := object ▸ r.legible_json
  have deep : (Json.object members).depth ≤ Tree.deepest := Nat.le_trans legible.deep (by decide)
  obtain ⟨found, read, names⟩ :=
    Json.read?_text_object (sublist.nodup (by decide)) legible.whole deep
  have absent {name : String} (other : name ∉ fieldNames) : name ∉ Members.names found := by
    intro listed
    exact other (sublist.subset ((names name).mp listed))
  rw [object]
  refine ⟨.object found, (Envelope.plain_of_ofText read).mpr ?_, ?_⟩
  · exact ⟨absent (by decide), absent (by decide), rfl⟩
  · exact Message.ofWire_of_noId (absent (by decide)) (absent (by decide))

end Rotation

namespace Agent

variable {a b : Agent} {r : Rotation} {text : String} {kid : Option String}

theorem openSigned_of_claims {j : Jws}
    (claims : j.payload = Base64Url.encode (Utf8.encode r.json.text)) :
    openSigned j = .error (.malformed .plaintext) := by
  obtain ⟨value, received, unread⟩ := r.received_json
  rw [openSigned, Jws.decodePayload, claims, decodeBase64Url_encode]
  dsimp only [bind, Except.bind]
  rw [payloadText, Utf8.decode?_encode]
  dsimp only
  rw [received]
  exact unread

/-- A signed envelope around claims is refused, once its signatures are checked. -/
theorem unpack_of_claims {j : Jws} (received : Envelope.ofText text = .ok (.signed j))
    (claims : j.payload = Base64Url.encode (Utf8.encode r.json.text)) (options : UnpackOptions) :
    b.unpack text options = (do
      let _ ← b.checkSignatures j
      throw (.malformed .plaintext)) := by
  rw [unpack, unwrap_of_signed received, openSigned_of_claims claims]
  cases b.checkSignatures j with
  | error e => rfl
  | ok signers => rfl

theorem parts_of_prove (proves : a.prove r kid = .ok proof) :
    ∃ header signature, (splitAt '.' proof.jwt.toList).map String.ofList =
      [header, Base64Url.encode (Utf8.encode r.json.text), signature] := by
  obtain ⟨-, -, key, -, -, signs⟩ := prove_sound proves
  obtain ⟨algorithm, d, signature, -, -, -, jwt⟩ := CompactJws.sign_sound signs
  rw [jwt]
  exact ⟨_, _, CompactJws.parts_assemble _ _ _⟩

/-- The signature of a proof holds for the envelope of its parts as well: the header is read without
its kid, and the same text was signed. -/
theorem checkSignatures_of_prove {header payload signature : String} (tidy : a.Tidy)
    (same : b.directory = a.directory) (proves : a.prove r kid = .ok proof)
    (correct : a.Attests r proof.kid)
    (parts : (splitAt '.' proof.jwt.toList).map String.ofList = [header, payload, signature]) :
    ∃ algorithm, b.checkSignatures (.ofParts header payload signature proof.kid) =
      .ok [(proof.kid, algorithm)] := by
  obtain ⟨-, -, key, found, id, signs⟩ := prove_sound proves
  obtain ⟨own, -, published, publishedFound, samePoint⟩ := signingKey_sound tidy same found
  obtain ⟨jwk, made⟩ := Keyring.ofJwk_of_key own
  obtain ⟨_, j, -, parsed, -, -, verified⟩ := CompactJws.verify_of_sign
    (fun _ => Key.exists_verifyingBytes made) samePoint signs
    fun j parsed => (id ▸ correct) key proof.jwt j own signs parsed
  obtain ⟨_, d, octets, -, -, -, jwt⟩ := CompactJws.sign_sound signs
  rw [jwt] at parsed parts
  obtain rfl := Except.ok.inj ((CompactJws.parse_assemble _ _ _).symm.trans parsed)
  rw [CompactJws.parts_assemble] at parts
  obtain ⟨rfl, rfl, rfl⟩ : _ = header ∧ _ = payload ∧ _ = signature := by simpa using parts
  obtain ⟨algorithm, named, verifies⟩ := CompactJws.verify_eq_ok_iff.mp verified
  have publishedId : published.id = key.id := (verificationKey_sound publishedFound).id
  refine ⟨algorithm, mapM_eq_ok_iff.mpr (.cons ?_ .nil)⟩
  refine bind_eq_ok_iff.mpr ⟨algorithm, ?_, bind_eq_ok_iff.mpr ⟨published, ?_, ?_⟩⟩
  · exact bind_eq_ok_iff.mpr ⟨_, Jws.Header.decode_compact _, named⟩
  · rw [id]
    exact publishedFound
  · refine check_bind_eq_ok_iff.mpr ⟨Jws.verify_eq_ok_iff.mpr ⟨octets, ?_, verifies⟩, ?_⟩
    · exact decodeBase64Url_encode octets
    · rw [id, publishedId]
      rfl

/-- Neither of the two signed texts is accepted for the other, whoever receives it: not an envelope
as a proof, and not the parts of a proof as an envelope, under whichever kids. -/
theorem signed_apart :
    (∀ payload key j, Jws.sign payload key = .ok j → ∃ s, j.signatures = [s] ∧
      CompactJws.parse (j.compactText s) = .error (.malformed .base64UrlJson) ∧
      ∀ b : Agent, b.checkProof (j.compactText s) = .error (.malformed .base64UrlJson)) ∧
    ∀ (a : Agent) r kid proof, a.prove r kid = .ok proof → ∃ header payload signature,
      (splitAt '.' proof.jwt.toList).map String.ofList = [header, payload, signature] ∧
      (∀ kid', Envelope.ofText (Jws.ofParts header payload signature kid').text =
        .ok (.signed (.ofParts header payload signature kid'))) ∧
      ∀ (b : Agent) text j options, Envelope.ofText text = .ok (.signed j) → j.payload = payload →
        b.unpack text options = (do
          let _ ← b.checkSignatures j
          throw (.malformed .plaintext)) := by
  constructor
  · intro payload key j signs
    obtain ⟨s, one, unread⟩ := CompactJws.parse_of_sign signs
    refine ⟨s, one, unread, ?_⟩
    intro b
    rw [checkProof, unread]
    rfl
  · intro a r kid proof proves
    obtain ⟨header, signature, parts⟩ := parts_of_prove proves
    refine ⟨header, _, signature, parts, ?_, ?_⟩
    · intro kid'
      exact Envelope.ofText_jws (List.cons_ne_nil _ _)
    · intro b text j options received claims
      exact unpack_of_claims received claims options

/-- An invitation that alice has signed, and her proof that carol takes her place: that one is
refused although its signature holds in the envelope. -/
theorem signed_apart_alice :
    (∃ j s, Jws.sign (Utf8.encode invitation.json.text) aliceSigner = .ok j ∧ j.signatures = [s] ∧
      bob.checkProof (j.compactText s) = .error (.malformed .base64UrlJson)) ∧
    ∃ proof header payload signature algorithm,
      alice.prove toCarol none = .ok proof ∧
      (splitAt '.' proof.jwt.toList).map String.ofList = [header, payload, signature] ∧
      bob.checkSignatures (.ofParts header payload signature proof.kid) =
        .ok [(proof.kid, algorithm)] ∧
      bob.unpack (Jws.ofParts header payload signature proof.kid).text {} =
        .error (.malformed .plaintext) := by
  constructor
  · obtain ⟨j, signs⟩ := exists_sign_aliceSigner (Utf8.encode invitation.json.text)
    obtain ⟨s, one, -, refused⟩ := signed_apart.1 _ _ j signs
    exact ⟨j, s, signs, one, refused bob⟩
  · obtain ⟨jwt, proves⟩ := exists_proof_toCarol
    obtain ⟨header, payload, signature, parts, received, refused⟩ := signed_apart.2 _ _ _ _ proves
    obtain ⟨algorithm, checked⟩ :=
      checkSignatures_of_prove tidy_alice (b := bob) rfl proves attests_toCarol parts
    refine ⟨_, header, payload, signature, algorithm, proves, parts, checked, ?_⟩
    rw [refused bob _ _ {} (received _) rfl, checked]
    rfl

end Agent

end DidMessaging
