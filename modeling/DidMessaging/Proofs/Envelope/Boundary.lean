import DidMessaging.Proofs.Cipher.Size
import DidMessaging.Proofs.Envelope.Opening
import DidMessaging.Proofs.Envelope.Rearranging
import DidMessaging.Proofs.Key.Derivation

namespace DidMessaging

/-! The cipher is given ciphertext and tag as one and cuts off a tag of its own size, so an envelope
may be cut anywhere else: without a sender nothing notices, and with one only the wrapped keys do,
which whoever has the content key and the shared secret makes anew. -/

/-- Octets that unwrap with the hashes of two different inputs. -/
structure KeyWrap.Ambiguous (wrapped input input' : Bytes) : Prop where
  different : input ≠ input'
  first : ∃ key, unwrap (sha256 input) wrapped = .ok key
  second : ∃ key, unwrap (sha256 input') wrapped = .ok key

namespace Jwe

open Result

variable {r : Received} {sender : Option Key} {recipient : Key} {payload content tag octets : Bytes}
  {o : Opening} {producer : Option Bytes}

/-- The entry with another wrapped key, if it is the one of `kid`. -/
def Recipient.rewrapped (entry : Recipient) (kid : String) (wrapped : Bytes) : Recipient :=
  if entry.kid = kid then { entry with encryptedKey := Base64Url.encode wrapped } else entry

@[simp] theorem Recipient.kid_rewrapped (entry : Recipient) (kid : String) (wrapped : Bytes) :
    (entry.rewrapped kid wrapped).kid = entry.kid := by
  unfold rewrapped
  split <;> rfl

namespace Received

/-- The envelope with its content cut into ciphertext and tag as given. -/
def cut (r : Received) (content tag : Bytes) : Received :=
  { r with jwe := { r.jwe with
      ciphertext := Base64Url.encode content
      tag := Base64Url.encode tag } }

/-- The envelope with another wrapped key for one of its recipients. -/
def rewrapped (r : Received) (kid : String) (wrapped : Bytes) : Received :=
  r.listing (r.jwe.recipients.map (·.rewrapped kid wrapped))

/-- An envelope on the wire is on the wire as well when it is cut elsewhere. -/
theorem parse_cut {text : String} (received : parse text = .ok r) (content tag : Bytes) :
    parse (r.cut content tag).jwe.text = .ok (r.cut content tag) := by
  obtain ⟨-, readable⟩ := parse_eq_ok_iff.mp received
  exact parse_text_eq_ok_iff.mpr readable

theorem entry_eq_ok_iff {kid : String} {own : Recipient} :
    r.entry kid = .ok own ↔ r.jwe.recipients.find? (·.kid = kid) = some own := by
  unfold entry
  cases r.jwe.recipients.find? (·.kid = kid) with
  | none => simp
  | some found => simp

theorem entry_rewrapped {kid : String} {own : Recipient} (found : r.entry kid = .ok own)
    (wrapped : Bytes) :
    (r.rewrapped kid wrapped).entry kid =
      .ok { own with encryptedKey := Base64Url.encode wrapped } := by
  rw [entry_eq_ok_iff] at found ⊢
  have named : own.kid = kid := by simpa using List.find?_some found
  simp only [rewrapped, listing, List.find?_map, Function.comp_def, Recipient.kid_rewrapped, found,
    Option.map_some]
  rw [Recipient.rewrapped, if_pos named]

end Received

namespace Opening.Yields

/-- Where the wrapping key stays the same nothing else hinders another cut. -/
theorem cut (yields : o.Yields r sender recipient producer payload)
    (same : content ++ tag = o.content ++ o.tag)
    (derived : o.derive r sender producer tag = .ok o.wrappingKey) :
    { o with content, tag }.Yields (r.cut content tag) sender recipient producer payload where
  begins := ⟨yields.begins.entry, yields.begins.algorithm, yields.begins.ephemeral,
    decodeBase64Url_encode tag⟩
  shared := yields.shared
  derived := derived
  wrapped := yields.wrapped
  unwraps := yields.unwraps
  content := decodeBase64Url_encode content
  iv := yields.iv
  payload := same ▸ yields.payload

theorem rewrapped {wrappingKey : Bytes} (yields : o.Yields r sender recipient producer payload)
    (same : content ++ tag = o.content ++ o.tag)
    (derived : o.derive r sender producer tag = .ok wrappingKey)
    (wraps : KeyWrap.wrap wrappingKey o.contentKey = .ok octets) :
    { o with
        entry := { o.entry with encryptedKey := Base64Url.encode octets }
        wrapped := octets
        wrappingKey
        content, tag }.Yields
      ((r.cut content tag).rewrapped recipient.id octets) sender recipient producer payload where
  begins := ⟨Received.entry_rewrapped yields.begins.entry octets, yields.begins.algorithm,
    yields.begins.ephemeral, decodeBase64Url_encode tag⟩
  shared := yields.shared
  derived := derived
  wrapped := decodeBase64Url_encode octets
  unwraps := KeyWrap.unwrap_wrap wraps
  content := decodeBase64Url_encode content
  iv := yields.iv
  payload := same ▸ yields.payload

/-- With a sender, wrapped keys that were made for one tag fit no other. -/
theorem tag_eq_or_ambiguous {key : Key} (yields : o.Yields r (some key) recipient producer payload)
    {o' : Opening} {other : Bytes}
    (opens : o'.Yields (r.cut content tag) (some key) recipient producer other) :
    tag = o.tag ∨ KeyWrap.Ambiguous o.wrapped
      (KeyDerivation.hashInput o.secret (Utf8.encode r.header.alg) producer (some r.apv)
        (some o.tag))
      (KeyDerivation.hashInput o.secret (Utf8.encode r.header.alg) producer (some r.apv)
        (some tag)) := by
  by_cases same : tag = o.tag
  · exact .inl same
  · right
    have tagDecoded : tag = o'.tag :=
      Except.ok.inj ((decodeBase64Url_encode tag).symm.trans opens.begins.tag)
    have entry : o.entry = o'.entry :=
      Except.ok.inj (yields.begins.entry.symm.trans opens.begins.entry)
    have epk : o.epk = o'.epk :=
      Except.ok.inj (yields.begins.ephemeral.symm.trans opens.begins.ephemeral)
    have secret : o.secret = o'.secret :=
      Except.ok.inj (yields.shared.symm.trans (epk ▸ opens.shared))
    have wrapped : o.wrapped = o'.wrapped :=
      Except.ok.inj (yields.wrapped.symm.trans (entry ▸ opens.wrapped))
    obtain ⟨-, first⟩ := KeyDerivation.wrappingKey_eq_ok_iff.mp yields.derived
    obtain ⟨-, second⟩ := KeyDerivation.wrappingKey_eq_ok_iff.mp opens.derived
    refine ⟨?_, ⟨o.contentKey, ?_⟩, o'.contentKey, ?_⟩
    · intro hashed
      exact same (KeyDerivation.hashInput_tag_injective _ _ _ _ hashed).symm
    · rw [← yields.unwraps, ← first]
      rfl
    · rw [tagDecoded, secret, wrapped, ← opens.unwraps, ← second]
      rfl

/-- The other parts that a wrapping key is derived from have fitted already. -/
theorem exists_derive (yields : o.Yields r sender recipient producer payload)
    (short : sender.isSome → tag.length < 2 ^ 32) :
    ∃ wrappingKey, o.derive r sender producer tag = .ok wrappingKey := by
  obtain ⟨sized, -⟩ := KeyDerivation.wrappingKey_eq_ok_iff.mp yields.derived
  exact ⟨_, KeyDerivation.wrappingKey_eq_ok_iff.mpr
    ⟨⟨⟨sized.algorithm, sized.producer, sized.consumer⟩, length_taggedBy short⟩, rfl⟩⟩

end Opening.Yields

/-- Whatever an envelope decrypts to, ciphertext and tag together are long enough for a tag of the
size that the algorithm has; where the one ends and the other begins is up to the envelope. Cut
elsewhere, at either end as well, it is still an envelope, and one without a sender decrypts to the
same payload. One with a sender does so once its key is wrapped for the other tag, which takes the
shared secret and the content key, and a tag whose length can be written down; wrapped for the one
tag, the key does not serve for another. -/
theorem decrypt_cut (opens : r.decrypt sender recipient = .ok payload) :
    ∃ o : Opening, o.Yields r sender recipient r.apu payload ∧
      payload.length + o.enc.tagSize ≤ (o.content ++ o.tag).length ∧
      ∀ content tag, content ++ tag = o.content ++ o.tag →
        (∀ text, parse text = .ok r →
          parse (r.cut content tag).jwe.text = .ok (r.cut content tag)) ∧
        (sender = none → (r.cut content tag).decrypt sender recipient = .ok payload) ∧
        ((sender.isSome → tag.length < 2 ^ 32) → ∃ wrappingKey wrapped,
          o.derive r sender r.apu tag = .ok wrappingKey ∧
            KeyWrap.wrap wrappingKey o.contentKey = .ok wrapped ∧
            ((r.cut content tag).rewrapped recipient.id wrapped).decrypt sender recipient =
              .ok payload) ∧
        ∀ key ∈ sender, ∀ other, (r.cut content tag).decrypt sender recipient = .ok other →
          tag = o.tag ∨ KeyWrap.Ambiguous o.wrapped
            (KeyDerivation.hashInput o.secret (Utf8.encode r.header.alg) r.apu (some r.apv)
              (some o.tag))
            (KeyDerivation.hashInput o.secret (Utf8.encode r.header.alg) r.apu (some r.apv)
              (some tag)) := by
  obtain ⟨o, yields⟩ := decrypt_eq_ok_iff.mp opens
  refine ⟨o, yields, ContentAlgorithm.length_of_decrypt yields.payload, ?_⟩
  intro content tag same
  refine ⟨?_, ?_, ?_, ?_⟩
  · intro text received
    exact Received.parse_cut received content tag
  · rintro rfl
    exact decrypt_eq_ok_iff.mpr ⟨_, yields.cut same yields.derived⟩
  · intro short
    obtain ⟨wrappingKey, derived⟩ := yields.exists_derive short
    obtain ⟨wrapped, wraps⟩ := KeyWrap.exists_wrap (KeyDerivation.length_wrappingKey derived)
      (ContentAlgorithm.whole_of_decrypt yields.payload)
    exact ⟨wrappingKey, wrapped, derived, wraps,
      decrypt_eq_ok_iff.mpr ⟨_, yields.rewrapped same derived wraps⟩⟩
  · rintro key ⟨⟩ other decrypts
    obtain ⟨o', opens'⟩ := decrypt_eq_ok_iff.mp decrypts
    exact yields.tag_eq_or_ambiguous opens'

/-- An envelope without any tag, the octets of which stand at the end of the ciphertext. -/
theorem decrypt_cut_untagged :
    ∃ r : Received, parse r.jwe.text = .ok r ∧ decodeBase64Url r.jwe.tag = .ok [] ∧
      r.contentAlgorithm = .ok .xc20p ∧ r.decrypt none firstKey = .ok [104, 105] := by
  obtain ⟨j, r, received, -, enc, -, each⟩ := exists_received_two [104, 105] .xc20p
    sized_anon (by simp) .none
  obtain ⟨o, yields, -, elsewhere⟩ := decrypt_cut (each firstKey (by simp))
  obtain ⟨wire, decrypts, -⟩ := elsewhere (o.content ++ o.tag) [] (List.append_nil _)
  refine ⟨r.cut (o.content ++ o.tag) [], wire _ received, rfl, ?_, decrypts rfl⟩
  simp only [Received.contentAlgorithm, Received.cut, enc]
  rfl

end Jwe

end DidMessaging
