import DidMessaging.Proofs.Envelope.Blame

namespace DidMessaging.Jwe

open Result

/-- What a decryption comes by on its way to the payload. -/
structure Opening where
  entry : Recipient
  enc : ContentAlgorithm
  epk : Key
  secret : Bytes
  wrappingKey : Bytes
  wrapped : Bytes
  contentKey : Bytes
  content : Bytes
  tag : Bytes
  iv : Bytes

namespace Opening

/-- Derives the key that the content key is wrapped with when the content ends with `tag`. The
producer is the party that the header names as the sender, if it names one. -/
def derive (o : Opening) (r : Received) (sender : Option Key) (producer : Option Bytes)
    (tag : Bytes) : Result Bytes :=
  KeyDerivation.wrappingKey o.secret r.header.alg producer (some r.apv) (sender.map fun _ => tag)

structure Yields (o : Opening) (r : Received) (sender : Option Key) (recipient : Key)
    (producer : Option Bytes) (payload : Bytes) : Prop where
  begins : r.Begins recipient.id o.entry o.enc o.epk o.tag
  shared : Received.secret recipient o.epk sender = .ok o.secret
  derived : o.derive r sender producer o.tag = .ok o.wrappingKey
  wrapped : decodeBase64Url o.entry.encryptedKey = .ok o.wrapped
  unwraps : KeyWrap.unwrap o.wrappingKey o.wrapped = .ok o.contentKey
  content : decodeBase64Url r.jwe.ciphertext = .ok o.content
  iv : decodeBase64Url r.jwe.iv = .ok o.iv
  payload : o.enc.decrypt o.iv o.contentKey (o.content ++ o.tag) (Utf8.encode r.jwe.header) =
    .ok payload

end Opening

variable {r : Received} {sender : Option Key} {recipient : Key} {payload : Bytes}

/-- A decryption succeeds through one opening, with the `apu` that the header carries. -/
theorem decrypt_eq_ok_iff :
    r.decrypt sender recipient = .ok payload ↔
      ∃ o : Opening, o.Yields r sender recipient r.apu payload := by
  simp only [Received.decrypt, bind_eq_ok_iff]
  constructor
  · rintro ⟨entry, found, enc, algorithm, epk, ephemeral, tag, tagDecoded, secret, shared,
      wrappingKey, derived, wrapped, wrappedDecoded, contentKey, unwraps, content, contentDecoded,
      iv, ivDecoded, decrypts⟩
    exact ⟨⟨entry, enc, epk, secret, wrappingKey, wrapped, contentKey, content, tag, iv⟩,
      ⟨found, algorithm, ephemeral, tagDecoded⟩, shared, derived, wrappedDecoded, unwraps,
      contentDecoded, ivDecoded, decrypts⟩
  · rintro ⟨o, begins, shared, derived, wrapped, unwraps, content, iv, decrypts⟩
    exact ⟨o.entry, begins.entry, o.enc, begins.algorithm, o.epk, begins.ephemeral, o.tag,
      begins.tag, o.secret, shared, o.wrappingKey, derived, o.wrapped, wrapped, o.contentKey,
      unwraps, o.content, content, o.iv, iv, decrypts⟩

/-- A received envelope is a text's, with its header and what that says of the parties. -/
theorem parse_eq_ok_iff {text : String} :
    parse text = .ok r ↔
      (Json.Tree.read? text).bind read? = some r.jwe ∧ r.jwe.recipients ≠ [] ∧
        decodeBase64UrlJson Header.read? r.jwe.header = .ok r.header ∧
        r.header.apu.mapM decodeBase64Url = .ok r.apu ∧
        decodeBase64Url r.header.apv = .ok r.apv := by
  unfold parse
  cases read : (Json.Tree.read? text).bind read? with
  | none => simp
  | some jwe =>
      simp only [ite_throw_eq_ok_iff, bind_eq_ok_iff, pure_eq_ok_iff]
      constructor
      · rintro ⟨listed, header, headerRead, apu, producer, apv, consumers, rfl⟩
        exact ⟨rfl, by simpa using listed, headerRead, producer, consumers⟩
      · rintro ⟨same, listed, headerRead, producer, consumers⟩
        obtain rfl := Option.some.inj same
        exact ⟨by simpa using listed, r.header, headerRead, r.apu, producer, r.apv, consumers, rfl⟩

/-- The text of an envelope is read as this one, provided that the header has been. -/
theorem parse_text_eq_ok_iff :
    parse r.jwe.text = .ok r ↔
      r.jwe.recipients ≠ [] ∧ decodeBase64UrlJson Header.read? r.jwe.header = .ok r.header ∧
        r.header.apu.mapM decodeBase64Url = .ok r.apu ∧
        decodeBase64Url r.header.apv = .ok r.apv := by
  have read : (Json.Tree.read? r.jwe.text).bind read? = some r.jwe := by
    rw [text, Json.Tree.read?_text r.jwe.whole_json r.jwe.depth_json, Option.bind_some, read?_json]
  rw [parse_eq_ok_iff, read]
  exact and_iff_right rfl

end DidMessaging.Jwe
