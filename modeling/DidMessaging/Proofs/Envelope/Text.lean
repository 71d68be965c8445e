import DidMessaging.Envelope.Encryption
import DidMessaging.Envelope.Jws
import DidMessaging.Proofs.Json.Reading
import DidMessaging.Proofs.Result
import DidMessaging.Proofs.Text.Radix
import DidMessaging.Proofs.Text.Utf8

namespace DidMessaging

open Result Json Json.Fields

/-! Parts in base64url. -/

@[simp] theorem decodeBase64Url_encode (bytes : Bytes) :
    decodeBase64Url (Base64Url.encode bytes) = .ok bytes := by
  rw [decodeBase64Url, Base64Url.decode?_encode]

theorem Json.Tree.readBytes?_encode {j : Json} (whole : j.Whole) (deep : j.depth ≤ deepest) :
    readBytes? (Utf8.encode j.text) = some (.ofJson j) := by
  rw [readBytes?, Utf8.scan_encode, ← read?_text whole deep, read?]

theorem decodeBase64UrlJson_encode {read? : Json.Tree → Option α} {j : Json} (whole : j.Whole)
    (deep : j.depth ≤ Json.Tree.deepest) (reads : read? (.ofJson j) = some a) :
    decodeBase64UrlJson read? (Base64Url.encode (Utf8.encode j.text)) = .ok a := by
  rw [decodeBase64UrlJson, decodeBase64Url_encode]
  refine bind_eq_ok_iff.mpr ⟨_, rfl, ?_⟩
  rw [Json.Tree.readBytes?_encode whole deep, Option.bind_some, reads]

theorem decodeBase64UrlJson_unread {read? : Json.Tree → Option α} {j : Json} (whole : j.Whole)
    (deep : j.depth ≤ Json.Tree.deepest) (unread : read? (.ofJson j) = none) :
    decodeBase64UrlJson read? (Base64Url.encode (Utf8.encode j.text)) =
      .error (.malformed .base64UrlJson) := by
  rw [decodeBase64UrlJson, decodeBase64Url_encode]
  dsimp only [bind, Except.bind]
  rw [Json.Tree.readBytes?_encode whole deep, Option.bind_some, unread]

/-! Signed envelopes. -/

namespace Jws

theorem Header.read?_json (h : Header) : read? (.ofJson h.json) = some h := by
  obtain ⟨fields, read, written⟩ := read?_ofJson ["typ", "alg"] 2
    [("typ", .string h.typ), ("alg", .string h.alg)] (by simp)
  have typ : fields.required? "typ" (·.string?) = some h.typ :=
    written.required?_string (by simp) (by simp)
  have alg : fields.required? "alg" (·.string?) = some h.alg :=
    written.required?_string (by simp) (by simp)
  simp only [read?, json, read, typ, alg, Option.bind_eq_bind, Option.bind_some, Option.pure_def]

theorem Header.decode_encode (h : Header) :
    decodeBase64UrlJson read? (Base64Url.encode (Utf8.encode h.json.text)) = .ok h :=
  decodeBase64UrlJson_encode (by simp [json, Whole, WholeMembers])
    (by simp [json, depth, membersDepth, Tree.deepest]) h.read?_json

theorem Signature.readKid?_json (kid : String) :
    readKid? (.ofJson (.object [("kid", .string kid)])) = some kid := by
  obtain ⟨fields, read, written⟩ := read?_ofJson ["kid"] 1 [("kid", .string kid)] (by simp)
  have found : fields.required? "kid" (·.string?) = some kid :=
    written.required?_string (by simp) (by simp)
  simp only [readKid?, read, found, Option.bind_eq_bind, Option.bind_some]

theorem Signature.read?_json (s : Signature) : read? (.ofJson s.json) = some s := by
  obtain ⟨fields, read, written⟩ := read?_ofJson ["protected", "signature", "header"] 3
    [("protected", .string s.header), ("signature", .string s.signature),
      ("header", .object [("kid", .string s.kid)])] (by simp)
  have header : fields.required? "protected" (·.string?) = some s.header :=
    written.required?_string (by simp) (by simp)
  have signature : fields.required? "signature" (·.string?) = some s.signature :=
    written.required?_string (by simp) (by simp)
  have kid : fields.required? "header" readKid? = some s.kid :=
    written.required? (by simp) (by simp) (readKid?_json s.kid)
  simp only [read?, json, read, header, signature, kid, Option.bind_eq_bind, Option.bind_some,
    Option.pure_def]

theorem read?_json (j : Jws) : read? (.ofJson j.json) = some j := by
  obtain ⟨fields, read, written⟩ := read?_ofJson ["payload", "signatures"] 2
    [("payload", .string j.payload),
      ("signatures", .array (j.signatures.map (·.json)))] (by simp)
  have payload : fields.required? "payload" (·.string?) = some j.payload :=
    written.required?_string (by simp) (by simp)
  have signatures : fields.required? "signatures" (·.list? Signature.read?) = some j.signatures :=
    written.required? (by simp) (by simp) (Tree.list?_ofJson fun s _ => s.read?_json)
  simp only [read?, json, read, payload, signatures, Option.bind_eq_bind, Option.bind_some,
    Option.pure_def]

theorem whole_json (j : Jws) : j.json.Whole := by
  simp [json, Signature.json, Whole, WholeMembers, wholeItems_iff]

theorem depth_json (j : Jws) : j.json.depth ≤ Tree.deepest := by
  have items : itemsDepth (j.signatures.map (·.json)) ≤ 2 := by
    simp [itemsDepth_le_iff, Signature.json, depth, membersDepth]
  simp only [json, depth, membersDepth, Tree.deepest]
  omega

theorem parse_text {j : Jws} (signed : j.signatures ≠ []) : parse j.text = .ok j := by
  have read : (Tree.read? j.text).bind read? = some j := by
    rw [text, Tree.read?_text j.whole_json j.depth_json, Option.bind_some, read?_json]
  simp [parse, read, signed]

end Jws

/-! Encrypted envelopes. -/

/-- The members of a key may stand in any order. -/
theorem Jwk.read?_of_perm {k : Jwk}
    (perm : members.Perm ([("kty", .string k.kty), ("crv", .string k.crv), ("x", .string k.x)]
      ++ Json.optional "y" .string k.y ++ Json.optional "d" .string k.d)) :
    read? (.ofJson (.object members)) = some k := by
  have nodup : (Members.names members).Nodup :=
    (Members.names_perm perm).nodup_iff.mpr (by cases k.y <;> cases k.d <;> simp)
  obtain ⟨fields, read, written⟩ := read?_ofJson fieldNames 5 members nodup
  simp only [Members.lookup_perm nodup perm] at written
  have kty : fields.required? "kty" (·.string?) = some k.kty :=
    written.required?_string (by simp [fieldNames]) (by simp)
  have crv : fields.required? "crv" (·.string?) = some k.crv :=
    written.required?_string (by simp [fieldNames]) (by simp)
  have x : fields.required? "x" (·.string?) = some k.x :=
    written.required?_string (by simp [fieldNames]) (by simp)
  have y : fields.optional? "y" (·.string?) = some k.y :=
    written.optional?_string (by simp [fieldNames]) (by simp [List.lookup_append])
  have d : fields.optional? "d" (·.string?) = some k.d :=
    written.optional?_string (by simp [fieldNames]) (by simp [List.lookup_append])
  simp only [read?, read, kty, crv, x, y, d, Option.bind_eq_bind, Option.bind_some,
    Option.pure_def]

theorem Jwk.read?_json (k : Jwk) : read? (.ofJson k.json) = some k :=
  read?_of_perm (.refl _)

theorem Jwk.whole_json (k : Jwk) : k.json.Whole := by
  rw [json, Whole, wholeMembers_iff]
  simp only [List.mem_append, List.mem_cons, List.not_mem_nil, or_false, mem_optional]
  rintro m (((rfl | rfl | rfl) | ⟨y, -, rfl⟩) | ⟨d, -, rfl⟩) <;> trivial

theorem Jwk.depth_json (k : Jwk) : k.json.depth ≤ 1 := by
  rw [json, depth, Nat.succ_le_succ_iff, membersDepth_le_iff]
  simp only [List.mem_append, List.mem_cons, List.not_mem_nil, or_false, mem_optional]
  rintro m (((rfl | rfl | rfl) | ⟨y, -, rfl⟩) | ⟨d, -, rfl⟩) <;> exact Nat.le_refl 0

namespace Jwe

theorem Header.whole_json (h : Header) : h.json.Whole := by
  rw [json, Whole, wholeMembers_iff]
  simp only [List.mem_append, List.mem_cons, List.not_mem_nil, or_false, mem_optional]
  rintro m ((((⟨typ, -, rfl⟩ | rfl | rfl) | ⟨skid, -, rfl⟩) | ⟨apu, -, rfl⟩) | rfl | rfl)
  case inr.inr => exact h.epk.whole_json
  all_goals trivial

theorem Header.depth_json (h : Header) : h.json.depth ≤ 2 := by
  rw [json, depth, Nat.succ_le_succ_iff, membersDepth_le_iff]
  simp only [List.mem_append, List.mem_cons, List.not_mem_nil, or_false, mem_optional]
  rintro m ((((⟨typ, -, rfl⟩ | rfl | rfl) | ⟨skid, -, rfl⟩) | ⟨apu, -, rfl⟩) | rfl | rfl)
  case inr.inr => exact h.epk.depth_json
  all_goals exact Nat.zero_le 1

theorem Header.read?_json (h : Header) : read? (.ofJson h.json) = some h := by
  obtain ⟨fields, read, written⟩ := read?_ofJson fieldNames 7
    (Json.optional "typ" .string h.typ ++ [("alg", .string h.alg), ("enc", .string h.enc)]
      ++ Json.optional "skid" .string h.skid ++ Json.optional "apu" .string h.apu
      ++ [("apv", .string h.apv), ("epk", h.epk.json)])
    (by cases h.typ <;> cases h.skid <;> cases h.apu <;> simp)
  have typ : fields.optional? "typ" (·.string?) = some h.typ :=
    written.optional?_string (by simp [fieldNames]) (by simp [List.lookup_append])
  have alg : fields.required? "alg" (·.string?) = some h.alg :=
    written.required?_string (by simp [fieldNames]) (by simp [List.lookup_append])
  have enc : fields.required? "enc" (·.string?) = some h.enc :=
    written.required?_string (by simp [fieldNames]) (by simp [List.lookup_append])
  have skid : fields.optional? "skid" (·.string?) = some h.skid :=
    written.optional?_string (by simp [fieldNames]) (by simp [List.lookup_append])
  have apu : fields.optional? "apu" (·.string?) = some h.apu :=
    written.optional?_string (by simp [fieldNames]) (by simp [List.lookup_append])
  have apv : fields.required? "apv" (·.string?) = some h.apv :=
    written.required?_string (by simp [fieldNames]) (by simp [List.lookup_append])
  have epk : fields.required? "epk" Jwk.read? = some h.epk :=
    written.required? (by simp [fieldNames]) (by simp [List.lookup_append]) h.epk.read?_json
  simp only [read?, json, read, typ, alg, enc, skid, apu, apv, epk, Option.bind_eq_bind,
    Option.bind_some, Option.pure_def]

theorem Recipient.readKid?_json (kid : String) :
    readKid? (.ofJson (.object [("kid", .string kid)])) = some kid :=
  Jws.Signature.readKid?_json kid

theorem Recipient.read?_of_written {fields : Fields} {r : Recipient}
    (read : Fields.read? ["header", "encrypted_key"] 2 t = some fields)
    (written : Written ["header", "encrypted_key"] found fields)
    (header : found "header" = some (.object [("kid", .string r.kid)]))
    (encryptedKey : found "encrypted_key" = some (.string r.encryptedKey)) :
    read? t = some r := by
  have kid : fields.required? "header" readKid? = some r.kid :=
    written.required? (by simp) header (readKid?_json r.kid)
  have encryptedKey : fields.required? "encrypted_key" (·.string?) = some r.encryptedKey :=
    written.required?_string (by simp) encryptedKey
  simp only [read?, read, kid, encryptedKey, Option.bind_eq_bind, Option.bind_some,
    Option.pure_def]

theorem Recipient.read?_json (r : Recipient) : read? (.ofJson r.json) = some r := by
  obtain ⟨fields, read, written⟩ := read?_ofJson ["header", "encrypted_key"] 2
    [("header", .object [("kid", .string r.kid)]), ("encrypted_key", .string r.encryptedKey)]
    (by simp)
  exact read?_of_written read written (by simp) (by simp)

theorem Recipient.read?_sorted (r : Recipient) : read? (.ofJson r.json.sorted) = some r := by
  obtain ⟨fields, read, written⟩ := Fields.read?_sorted ["header", "encrypted_key"] 2
    [("header", .object [("kid", .string r.kid)]), ("encrypted_key", .string r.encryptedKey)]
    (by simp)
  exact read?_of_written read written (by simp; rfl) (by simp)

theorem read?_of_written {fields : Fields} {j : Jwe} {item : Recipient → Json}
    (read : Fields.read? fieldNames 5 t = some fields) (written : Written fieldNames found fields)
    (header : found "protected" = some (.string j.header))
    (recipients : found "recipients" = some (.array (j.recipients.map item)))
    (each : ∀ r, Recipient.read? (.ofJson (item r)) = some r)
    (iv : found "iv" = some (.string j.iv))
    (ciphertext : found "ciphertext" = some (.string j.ciphertext))
    (tag : found "tag" = some (.string j.tag)) : read? t = some j := by
  have header : fields.required? "protected" (·.string?) = some j.header :=
    written.required?_string (by simp [fieldNames]) header
  have recipients : fields.required? "recipients" (·.list? Recipient.read?) =
      some j.recipients :=
    written.required? (by simp [fieldNames]) recipients (Tree.list?_ofJson fun r _ => each r)
  have iv : fields.required? "iv" (·.string?) = some j.iv :=
    written.required?_string (by simp [fieldNames]) iv
  have ciphertext : fields.required? "ciphertext" (·.string?) = some j.ciphertext :=
    written.required?_string (by simp [fieldNames]) ciphertext
  have tag : fields.required? "tag" (·.string?) = some j.tag :=
    written.required?_string (by simp [fieldNames]) tag
  simp only [read?, read, header, recipients, iv, ciphertext, tag, Option.bind_eq_bind,
    Option.bind_some, Option.pure_def]

theorem read?_json (j : Jwe) : read? (.ofJson j.json) = some j := by
  obtain ⟨fields, read, written⟩ := read?_ofJson fieldNames 5
    [("protected", .string j.header), ("recipients", .array (j.recipients.map (·.json))),
      ("iv", .string j.iv), ("ciphertext", .string j.ciphertext), ("tag", .string j.tag)] (by simp)
  exact read?_of_written read written (by simp) (by simp) Recipient.read?_json (by simp) (by simp)
    (by simp)

theorem read?_sorted (j : Jwe) : read? (.ofJson j.json.sorted) = some j := by
  obtain ⟨fields, read, written⟩ := Fields.read?_sorted fieldNames 5
    [("protected", .string j.header), ("recipients", .array (j.recipients.map (·.json))),
      ("iv", .string j.iv), ("ciphertext", .string j.ciphertext), ("tag", .string j.tag)] (by simp)
  have recipients : (Json.array (j.recipients.map (·.json))).sorted =
      .array (j.recipients.map (·.json.sorted)) := by
    rw [sorted, sortedItems_eq_map, List.map_map]
    rfl
  exact read?_of_written read written (by simp) (by simp [recipients]) Recipient.read?_sorted
    (by simp) (by simp) (by simp)

theorem whole_json (j : Jwe) : j.json.Whole := by
  simp [json, Recipient.json, Whole, WholeMembers, wholeItems_iff]

theorem depth_json_le (j : Jwe) : j.json.depth ≤ 4 := by
  have items : itemsDepth (j.recipients.map (·.json)) ≤ 2 := by
    simp [itemsDepth_le_iff, Recipient.json, depth, membersDepth]
  simp only [json, depth, membersDepth]
  omega

theorem depth_json (j : Jwe) : j.json.depth ≤ Tree.deepest :=
  Nat.le_trans j.depth_json_le (by decide)

/-- A text that was read and written again is the same envelope. -/
theorem parse_sorted (j : Jwe) : parse j.json.sorted.text = parse j.text := by
  have read : (Tree.read? j.text).bind read? = some j := by
    rw [text, Tree.read?_text j.whole_json j.depth_json, Option.bind_some, read?_json]
  have readSorted : (Tree.read? j.json.sorted.text).bind read? = some j := by
    have deep := Nat.le_trans (depth_sorted_le j.json) j.depth_json
    rw [Tree.read?_text (whole_sorted j.whole_json) deep, Option.bind_some, read?_sorted]
  simp only [parse, read, readSorted]

theorem Header.decode_encode (h : Header) :
    decodeBase64UrlJson read? (Base64Url.encode (Utf8.encode h.json.text)) = .ok h :=
  decodeBase64UrlJson_encode h.whole_json (Nat.le_trans h.depth_json (by decide)) h.read?_json

end Jwe

end DidMessaging
