import DidMessaging.Proofs.Envelope.Compact
import DidMessaging.Proofs.Key.Pair

namespace DidMessaging

open Result

/-! What is signed. -/

def Jws.signedText (a : SignatureAlgorithm) (payload : Bytes) : String :=
  signingInput (headerText a) (Base64Url.encode payload)

def CompactJws.signedText (h : Header) (payload : Bytes) : String :=
  signingInput (Base64Url.encode (Utf8.encode h.json.text)) (Base64Url.encode payload)

theorem Jws.exists_sign {k : Key} {a : SignatureAlgorithm} {d payload : Bytes}
    (signs : k.Signs a d) (correct : a.Correct d (Utf8.encode (signedText a payload))) :
    ∃ j s, sign payload k = .ok j ∧ parse j.text = .ok j ∧ j.signatures = [s] ∧ s.kid = k.id ∧
      s.algorithm = .ok a ∧ j.verify s a k.toPublic = .ok () ∧ j.decodePayload = .ok payload := by
  obtain ⟨signature, signed⟩ := correct.exists_sign signs.length_d
  have made := sign_eq_ok signs.algorithm signs.secret signed
  obtain ⟨s, a', same, kid, algorithm, named, verified⟩ :=
    verify_of_sign (fun _ _ => signs.exists_verifyingBytes)
      (Key.samePoint_of_jwk rfl rfl rfl : k.SamePoint k.toPublic) made fun s listed => by
        obtain rfl := List.mem_singleton.mp listed
        exact signs.signsFor correct
  obtain rfl := Except.ok.inj (signs.algorithm.symm.trans algorithm)
  rw [same] at made verified
  exact ⟨_, s, made, parse_text (List.cons_ne_nil _ _), rfl, kid, named, verified,
    decodeBase64Url_encode payload⟩

theorem CompactJws.exists_sign {k : Key} {a : SignatureAlgorithm} {d payload : Bytes}
    (signs : k.Signs a d) (typ : String)
    (correct : a.Correct d (Utf8.encode (signedText ⟨typ, a.name, k.id⟩ payload))) :
    ∃ text j, sign payload k typ = .ok text ∧ parse text = .ok j ∧
      j.header = ⟨typ, a.name, k.id⟩ ∧ j.verify k.toPublic = .ok () ∧
      j.decodePayload = .ok payload := by
  obtain ⟨signature, signed⟩ := correct.exists_sign signs.length_d
  have made := sign_eq_ok signs.algorithm signs.secret signed
  obtain ⟨a', j, algorithm, parsed, header, decoded, verified⟩ :=
    verify_of_sign (fun _ _ => signs.exists_verifyingBytes)
      (Key.samePoint_of_jwk rfl rfl rfl : k.SamePoint k.toPublic) made fun j parsed => by
        obtain rfl := Except.ok.inj ((parse_assemble _ _ _).symm.trans parsed)
        exact signs.signsFor correct
  obtain rfl := Except.ok.inj (signs.algorithm.symm.trans algorithm)
  exact ⟨_, j, made, parsed, header, verified, decoded⟩

/-- What a key signs with EdDSA is known beforehand. -/
theorem CompactJws.sign_edDsa {k : Key} {d : Bytes} (signs : k.Signs .edDsa d) (payload : Bytes)
    (typ : String) :
    sign payload k typ = .ok (assemble ⟨typ, SignatureAlgorithm.edDsa.name, k.id⟩ payload
      (Ed25519.sign d
        (Utf8.encode (signedText ⟨typ, SignatureAlgorithm.edDsa.name, k.id⟩ payload)))) := by
  have signed := SignatureAlgorithm.sign_edDsa signs.length_d
    (Utf8.encode (signedText ⟨typ, SignatureAlgorithm.edDsa.name, k.id⟩ payload))
  rw [signedText] at signed ⊢
  exact sign_eq_ok signs.algorithm signs.secret signed

/-! What is received. -/

/-- A compact text joins three parts, of which it is read; what was signed are the first two. -/
structure CompactJws.Joins (text header payload signature : String) (j : CompactJws) : Prop where
  dotless : '.' ∉ header.toList ∧ '.' ∉ payload.toList ∧ '.' ∉ signature.toList
  text : text = signingInput (signingInput header payload) signature
  signed : j.signed = signingInput header payload
  payload : j.payload = payload
  header : decodeBase64UrlJson Header.read? header = .ok j.header
  signature : decodeBase64Url signature = .ok j.signature

theorem CompactJws.parse_eq_ok_iff {text : String} {j : CompactJws} :
    parse text = .ok j ↔ ∃ header payload signature, Joins text header payload signature j := by
  unfold parse
  constructor
  · intro parsed
    split at parsed
    · next header payload signature parts =>
        obtain ⟨dotless, joined⟩ := parts_eq_iff.mp parts
        obtain ⟨decoded, header', parsed⟩ := bind_eq_ok_iff.mp parsed
        obtain ⟨octets, signature', parsed⟩ := bind_eq_ok_iff.mp parsed
        obtain rfl := pure_eq_ok_iff.mp parsed
        exact ⟨header, payload, signature, dotless, joined, rfl, rfl, header', signature'⟩
    · contradiction
  · rintro ⟨header, payload, signature, dotless, joined, signed, rfl, header', signature'⟩
    rw [parts_eq_iff.mpr ⟨dotless, joined⟩]
    refine bind_eq_ok_iff.mpr ⟨j.header, header', bind_eq_ok_iff.mpr
      ⟨j.signature, signature', ?_⟩⟩
    rw [← signed]
    rfl

/-! A key under an id of which no character may be lost. -/

def oddSigner : Key :=
  .pair .ed25519 "did:example:o\"d#\u00fc.1" (Ed25519.publicKey (List.replicate 32 6))
    (List.replicate 32 6)

theorem signs_oddSigner : oddSigner.Signs .edDsa (List.replicate 32 6) :=
  Key.signs_pair List.length_replicate

theorem correct_oddSigner :
    SignatureAlgorithm.edDsa.Correct (List.replicate 32 6)
        (Utf8.encode (Jws.signedText .edDsa [0, 255])) ∧
      SignatureAlgorithm.edDsa.Correct (List.replicate 32 6)
        (Utf8.encode (CompactJws.signedText ⟨"J.W\"T", "EdDSA", oddSigner.id⟩ [0, 255])) := by
  constructor
  · refine .edDsa List.length_replicate ?_
    simp only [Jws.signedText, Jws.headerText, encode_signingInput, Json.encode_text]
    decide +kernel
  · refine .edDsa List.length_replicate ?_
    simp only [CompactJws.signedText, encode_signingInput, Json.encode_text]
    decide +kernel

/-- Whatever a key signs in either form is read back, with the algorithm and the id of the key, and
holds under its public half, whichever characters the id and the type have. A compact text that is
read joins three parts, of which the first two, as they were received, are what has to be signed. -/
theorem Key.Signs.readsBack {k : Key} {a : SignatureAlgorithm} {d : Bytes} (signs : k.Signs a d) :
    (∀ payload, a.Correct d (Utf8.encode (Jws.signedText a payload)) →
      ∃ j s, Jws.sign payload k = .ok j ∧ Jws.parse j.text = .ok j ∧ j.signatures = [s] ∧
        s.kid = k.id ∧ s.algorithm = .ok a ∧ j.verify s a k.toPublic = .ok () ∧
        j.decodePayload = .ok payload) ∧
    (∀ payload typ, a.Correct d (Utf8.encode (CompactJws.signedText ⟨typ, a.name, k.id⟩ payload)) →
      ∃ text j, CompactJws.sign payload k typ = .ok text ∧ CompactJws.parse text = .ok j ∧
        j.header = ⟨typ, a.name, k.id⟩ ∧ j.verify k.toPublic = .ok () ∧
        j.decodePayload = .ok payload) ∧
    ∀ text j, CompactJws.parse text = .ok j → ∃ header payload signature,
      CompactJws.Joins text header payload signature j ∧
      ∀ k' : Key, j.verify k' = .ok () ↔ ∃ a', SignatureAlgorithm.ofName j.header.alg = .ok a' ∧
        k'.Verifies a' (signingInput header payload) j.signature := by
  refine ⟨fun payload => Jws.exists_sign signs, fun payload typ => CompactJws.exists_sign signs typ,
    fun text j parsed => ?_⟩
  obtain ⟨header, payload, signature, joins⟩ := CompactJws.parse_eq_ok_iff.mp parsed
  refine ⟨header, payload, signature, joins, fun k' => ?_⟩
  rw [← joins.signed]
  exact CompactJws.verify_eq_ok_iff

theorem Key.Signs.readsBack_oddSigner :
    (∃ j s, Jws.sign [0, 255] oddSigner = .ok j ∧ Jws.parse j.text = .ok j ∧ j.signatures = [s] ∧
      s.kid = "did:example:o\"d#\u00fc.1" ∧ j.verify s .edDsa oddSigner.toPublic = .ok () ∧
      j.decodePayload = .ok [0, 255]) ∧
    ∃ text j header payload signature, CompactJws.sign [0, 255] oddSigner "J.W\"T" = .ok text ∧
      CompactJws.parse text = .ok j ∧
      j.header = ⟨"J.W\"T", "EdDSA", "did:example:o\"d#\u00fc.1"⟩ ∧
      j.verify oddSigner.toPublic = .ok () ∧ j.decodePayload = .ok [0, 255] ∧
      CompactJws.Joins text header payload signature j := by
  obtain ⟨general, compact, received⟩ := signs_oddSigner.readsBack
  obtain ⟨correct, correctCompact⟩ := correct_oddSigner
  obtain ⟨j, s, signed, parsed, one, kid, -, verified, decoded⟩ := general _ correct
  obtain ⟨text, j', signed', parsed', header, verified', decoded'⟩ := compact _ _ correctCompact
  obtain ⟨first, second, third, joins, -⟩ := received text j' parsed'
  exact ⟨⟨j, s, signed, parsed, one, kid, verified, decoded⟩, text, j', first, second, third,
    signed', parsed', header, verified', decoded', joins⟩

end DidMessaging
