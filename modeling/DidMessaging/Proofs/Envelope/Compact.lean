import DidMessaging.Proofs.Envelope.Signing

namespace DidMessaging

open Result Json Json.Fields

/-! Parts between dots. -/

theorem toList_signingInput (header payload : String) :
    (signingInput header payload).toList = header.toList ++ '.' :: payload.toList := by
  simp [signingInput]

theorem toList_compact (header payload signature : String) :
    (signingInput (signingInput header payload) signature).toList =
      header.toList ++ '.' :: (payload.toList ++ '.' :: signature.toList) := by
  rw [toList_signingInput, toList_signingInput, List.append_assoc, List.cons_append]

/-- Parts without dots are found again. -/
theorem parts_compact {header payload signature : String} (noHeader : '.' ∉ header.toList)
    (noPayload : '.' ∉ payload.toList) (noSignature : '.' ∉ signature.toList) :
    (splitAt '.' (signingInput (signingInput header payload) signature).toList).map String.ofList =
      [header, payload, signature] := by
  rw [toList_compact, splitAt_append noHeader, splitAt_append noPayload,
    splitAt_of_notMem noSignature]
  simp only [List.map_cons, List.map_nil, String.ofList_toList]

/-- The first part ends at the first separator. -/
theorem splitAt_eq_cons_iff {separator : Char} {cs part : List Char} {parts : List (List Char)} :
    splitAt separator cs = part :: parts ↔ separator ∉ part ∧
      (cs = part ∧ parts = [] ∨
        ∃ rest, cs = part ++ separator :: rest ∧ splitAt separator rest = parts) := by
  constructor
  · intro split
    by_cases present : separator ∈ cs
    · obtain ⟨first, rest, rfl, absent⟩ := List.eq_append_cons_of_mem present
      rw [splitAt_append absent] at split
      obtain ⟨rfl, rfl⟩ := List.cons.inj split
      exact ⟨absent, .inr ⟨rest, rfl, rfl⟩⟩
    · rw [splitAt_of_notMem present] at split
      obtain ⟨rfl, rfl⟩ := List.cons.inj split
      exact ⟨present, .inl ⟨rfl, rfl⟩⟩
  · rintro ⟨absent, ⟨rfl, rfl⟩ | ⟨rest, rfl, rfl⟩⟩
    · exact splitAt_of_notMem absent
    · exact splitAt_append absent rest

/-- Three parts are found just in a text that joins them. -/
theorem parts_eq_iff {text header payload signature : String} :
    (splitAt '.' text.toList).map String.ofList = [header, payload, signature] ↔
      ('.' ∉ header.toList ∧ '.' ∉ payload.toList ∧ '.' ∉ signature.toList) ∧
      text = signingInput (signingInput header payload) signature := by
  constructor
  · intro parts
    have split : splitAt '.' text.toList =
        [header.toList, payload.toList, signature.toList] := by
      rw [← List.map_id (splitAt '.' text.toList)]
      simpa [Function.comp_def] using congrArg (List.map String.toList) parts
    obtain ⟨noHeader, ⟨-, none_⟩ | ⟨rest, joined, splitRest⟩⟩ := splitAt_eq_cons_iff.mp split
    · contradiction
    obtain ⟨noPayload, ⟨-, none_⟩ | ⟨last, rfl, splitLast⟩⟩ := splitAt_eq_cons_iff.mp splitRest
    · contradiction
    obtain ⟨noSignature, ⟨rfl, -⟩ | ⟨more, -, splitMore⟩⟩ := splitAt_eq_cons_iff.mp splitLast
    · refine ⟨⟨noHeader, noPayload, noSignature⟩, String.toList_injective ?_⟩
      rw [joined, toList_compact]
    · exact absurd splitMore (splitAt_ne_nil _ _)
  · rintro ⟨⟨noHeader, noPayload, noSignature⟩, rfl⟩
    exact parts_compact noHeader noPayload noSignature

namespace CompactJws

theorem Header.read?_json (h : Header) : read? (.ofJson h.json) = some h := by
  obtain ⟨fields, read, written⟩ := read?_ofJson ["typ", "alg", "kid"] 3
    [("typ", .string h.typ), ("alg", .string h.alg), ("kid", .string h.kid)] (by simp)
  have typ : fields.required? "typ" (·.string?) = some h.typ :=
    written.required?_string (by simp) (by simp)
  have alg : fields.required? "alg" (·.string?) = some h.alg :=
    written.required?_string (by simp) (by simp)
  have kid : fields.required? "kid" (·.string?) = some h.kid :=
    written.required?_string (by simp) (by simp)
  simp only [read?, json, read, typ, alg, kid, Option.bind_eq_bind, Option.bind_some,
    Option.pure_def]

theorem Header.decode_encode (h : Header) :
    decodeBase64UrlJson read? (Base64Url.encode (Utf8.encode h.json.text)) = .ok h :=
  decodeBase64UrlJson_encode (by simp [json, Whole, WholeMembers])
    (by simp [json, depth, membersDepth, Tree.deepest]) h.read?_json

/-- The text of a header, a payload and a signature. -/
def assemble (h : Header) (payload signature : Bytes) : String :=
  signingInput
    (signingInput (Base64Url.encode (Utf8.encode h.json.text)) (Base64Url.encode payload))
    (Base64Url.encode signature)

theorem parts_assemble (h : Header) (payload signature : Bytes) :
    (splitAt '.' (assemble h payload signature).toList).map String.ofList =
      [Base64Url.encode (Utf8.encode h.json.text), Base64Url.encode payload,
        Base64Url.encode signature] :=
  parts_compact (Base64Url.dot_notMem_encode _) (Base64Url.dot_notMem_encode _)
    (Base64Url.dot_notMem_encode _)

theorem parse_assemble (h : Header) (payload signature : Bytes) :
    parse (assemble h payload signature) = .ok ⟨h,
      signingInput (Base64Url.encode (Utf8.encode h.json.text)) (Base64Url.encode payload),
      Base64Url.encode payload, signature⟩ := by
  simp only [parse, parts_assemble]
  exact bind_eq_ok_iff.mpr ⟨h, h.decode_encode,
    bind_eq_ok_iff.mpr ⟨signature, decodeBase64Url_encode signature, rfl⟩⟩

theorem sign_eq_ok {payload signature : Bytes} {key : Key}
    (algorithm : SignatureAlgorithm.ofCurve key.curve = .ok a) (found : key.d = .ok d)
    (signs : a.sign d (Utf8.encode (signingInput
        (Base64Url.encode (Utf8.encode (Header.json ⟨typ, a.name, key.id⟩).text))
        (Base64Url.encode payload))) = .ok signature) :
    sign payload key typ = .ok (assemble ⟨typ, a.name, key.id⟩ payload signature) :=
  bind_eq_ok_iff.mpr ⟨a, algorithm, bind_eq_ok_iff.mpr
    ⟨signature, bind_eq_ok_iff.mpr ⟨d, found, signs⟩, rfl⟩⟩

theorem sign_sound {payload : Bytes} {key : Key} (signs : sign payload key typ = .ok jwt) :
    ∃ a d signature, SignatureAlgorithm.ofCurve key.curve = .ok a ∧ key.d = .ok d ∧
      a.sign d (Utf8.encode (signingInput
        (Base64Url.encode (Utf8.encode (Header.json ⟨typ, a.name, key.id⟩).text))
        (Base64Url.encode payload))) = .ok signature ∧
      jwt = assemble ⟨typ, a.name, key.id⟩ payload signature := by
  unfold sign at signs
  obtain ⟨a, algorithm, signs⟩ := bind_eq_ok_iff.mp signs
  obtain ⟨signature, signed, signs⟩ := bind_eq_ok_iff.mp signs
  obtain ⟨d, found, signed⟩ := bind_eq_ok_iff.mp signed
  exact ⟨a, d, signature, algorithm, found, signed, (pure_eq_ok_iff.mp signs).symm⟩

/-- What a key signed is read back, and holds under every key with the coordinates of the
signer's. -/
theorem verify_of_sign {payload : Bytes} {key published : Key}
    (verifies : ∀ a, SignatureAlgorithm.ofCurve key.curve = .ok a →
      ∃ bytes, key.verifyingBytes = .ok bytes)
    (same : key.SamePoint published) (signs : sign payload key typ = .ok jwt)
    (correct : ∀ j, parse jwt = .ok j → key.SignsFor (Utf8.encode j.signed)) :
    ∃ a j, SignatureAlgorithm.ofCurve key.curve = .ok a ∧ parse jwt = .ok j ∧
      j.header = ⟨typ, a.name, key.id⟩ ∧ j.decodePayload = .ok payload ∧
      j.verify published = .ok () := by
  obtain ⟨a, d, signature, algorithm, found, signed, rfl⟩ := sign_sound signs
  have parsed := parse_assemble ⟨typ, a.name, key.id⟩ payload signature
  obtain ⟨bytes, verifying⟩ := verifies a algorithm
  have named : SignatureAlgorithm.ofName a.name = .ok a := by
    simp only [SignatureAlgorithm.ofName, SignatureAlgorithm.named?_eq_some_iff.mpr rfl]
  refine ⟨a, _, algorithm, parsed, rfl, decodeBase64Url_encode payload, verify_eq_ok_iff.mpr ⟨a, named, ?_⟩⟩
  refine ⟨by rwa [same.curve], bytes, same.verifyingBytes algorithm verifying, ?_⟩
  exact correct _ parsed a d signature bytes algorithm found signed verifying

end CompactJws

end DidMessaging
