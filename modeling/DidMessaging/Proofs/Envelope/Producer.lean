import DidMessaging.Proofs.Envelope.Boundary

namespace DidMessaging.Jwe

open Result

variable {r : Received} {kid : String} {apu : Option Bytes}

namespace Received

/-- What a wrapping key is derived for as the sender, where the sender comes out as `kid`. -/
inductive Producer (r : Received) (kid : String) : Option Bytes → Prop
  /-- `apu` is the id, and `skid` is the same id or missing. -/
  | named (present : r.header.apu = some encoded)
      (decoded : decodeBase64Url encoded = .ok (Utf8.encode kid))
      (same : ∀ skid ∈ r.header.skid, skid = kid) : Producer r kid (some (Utf8.encode kid))
  /-- There is only `skid`, which goes into no key. -/
  | unnamed (missing : r.header.apu = none) (alone : r.header.skid = some kid) :
      Producer r kid none

theorem apu_of_parse {text : String} (received : parse text = .ok r) :
    (r.header.apu = none ∧ r.apu = none) ∨ ∃ encoded octets,
      r.header.apu = some encoded ∧ r.apu = some octets ∧
        decodeBase64Url encoded = .ok octets := by
  obtain ⟨-, -, -, producer, -⟩ := parse_eq_ok_iff.mp received
  cases present : r.header.apu with
  | none =>
      rw [present] at producer
      exact .inl ⟨rfl, (Except.ok.inj producer).symm⟩
  | some encoded =>
      rw [present, Option.mapM_some] at producer
      obtain ⟨octets, decoded, answer⟩ := bind_eq_ok_iff.mp producer
      exact .inr ⟨encoded, octets, rfl, (pure_eq_ok_iff.mp answer).symm, decoded⟩

theorem sender_of_apu {octets : Bytes} (present : r.apu = some octets) :
    r.sender = .ok kid ↔ octets = Utf8.encode kid ∧ ∀ skid ∈ r.header.skid, skid = kid := by
  rw [← Utf8.decode?_eq_some_iff, sender]
  simp only [present]
  cases decoded : Utf8.decode? octets with
  | none => simp
  | some named =>
      cases r.header.skid with
      | none => simp
      | some skid =>
          by_cases same : skid = named
          · simp [same]
          · simp only [if_neg same, throw_ne_ok, Option.mem_some, forall_eq', Option.some.injEq,
              false_iff, not_and]
            rintro rfl
            exact same

theorem sender_of_skid (missing : r.apu = none) :
    r.sender = .ok kid ↔ r.header.skid = some kid := by
  rw [sender]
  simp only [missing]
  cases r.header.skid with
  | none => simp
  | some skid => simp

/-- The sender is made out from what goes into the derivation, or else from `skid`. -/
theorem sender_eq_ok_iff {text : String} (received : parse text = .ok r) :
    r.sender = .ok kid ↔ r.Producer kid r.apu := by
  rcases apu_of_parse received with ⟨missing, none_⟩ | ⟨encoded, octets, present, some_, decoded⟩
  · rw [sender_of_skid none_, none_]
    constructor
    · exact .unnamed missing
    · rintro ⟨⟩
      assumption
  · rw [sender_of_apu some_, some_]
    constructor
    · rintro ⟨rfl, same⟩
      exact .named present decoded same
    · rintro ⟨⟩
      exact ⟨rfl, by assumption⟩

/-- The id goes into the derivation just when the header carries `apu`. -/
theorem Producer.octets_eq_iff (producer : r.Producer kid apu) (some_ : kid ≠ "") :
    apu.getD [] = Utf8.encode kid ↔ r.header.apu.isSome = true := by
  cases producer with
  | named present decoded same => simp [present]
  | unnamed missing alone =>
      have long := Utf8.length_encode_ge kid
      have positive : kid.toList ≠ [] := fun empty => some_ (String.toList_eq_nil_iff.mp empty)
      have pos := List.length_pos_of_ne_nil positive
      simp only [missing, Option.getD_none, Option.isSome_none, Bool.false_eq_true, iff_false]
      intro empty
      rw [← empty, List.length_nil] at long
      omega

/-! Sealing under another header. -/

/-- The envelope with another header, and with the content and the wrapped key made for it. -/
def resealed (r : Received) (h : Header) (apu : Option Bytes) (kid : String)
    (content tag wrapped : Bytes) : Received :=
  let recut := (r.cut content tag).rewrapped kid wrapped
  { recut with
    jwe := { recut.jwe with header := Base64Url.encode (Utf8.encode h.json.text) }
    header := h
    apu }

theorem kids_resealed (r : Received) (h : Header) (apu : Option Bytes) (kid : String)
    (content tag wrapped : Bytes) : (r.resealed h apu kid content tag wrapped).kids = r.kids := by
  simp only [kids, resealed, rewrapped, listing, List.map_map, Function.comp_def,
    Recipient.kid_rewrapped]
  rfl

end Received

/-- With the shared secret and the content key of an envelope, its recipient is sent any payload
under any header that keeps the cipher, the fresh key and the commitment to the recipients. -/
theorem exists_resealed {sender : Option Key} {recipient : Key} {o : Opening} {h : Header}
    {payload : Bytes} {producer : Option Bytes}
    (yields : o.Yields r sender recipient producer payload) (enc : h.enc = r.header.enc)
    (epk : h.epk = r.header.epk) (consumers : decodeBase64Url h.apv = .ok r.apv)
    (present : h.apu.mapM decodeBase64Url = .ok apu)
    (algorithm : (Utf8.encode h.alg).length < 2 ^ 32) (party : (apu.getD []).length < 2 ^ 32)
    (message : Bytes) :
    ∃ r' : Received, parse r'.jwe.text = .ok r' ∧ r'.header = h ∧ r'.apu = apu ∧
      r'.kids = r.kids ∧ r'.decrypt sender recipient = .ok message := by
  obtain ⟨sizes, -⟩ := check_bind_eq_ok_iff.mp yields.payload
  obtain ⟨vector, keySize⟩ := ContentAlgorithm.checkSizes_eq_ok_iff.mp sizes
  obtain ⟨whole, encrypts⟩ := ContentAlgorithm.exists_encrypt vector keySize message
    (Utf8.encode (Base64Url.encode (Utf8.encode h.json.text)))
  -- The content is cut where the tag begins, as in any envelope.
  generalize contentOf : whole.take (whole.length - o.enc.tagSize) = content
  generalize tagOf : whole.drop (whole.length - o.enc.tagSize) = tag
  have joined : content ++ tag = whole := by rw [← contentOf, ← tagOf, List.take_append_drop]
  have short : tag.length < 2 ^ 32 := by
    rw [← tagOf]
    exact o.enc.length_tag_lt whole
  obtain ⟨before, -⟩ := KeyDerivation.wrappingKey_eq_ok_iff.mp yields.derived
  have sized : KeyDerivation.Arguments.Sized
      ⟨o.secret, h.alg, apu, some r.apv, sender.map fun _ => tag⟩ :=
    ⟨⟨algorithm, party, before.consumer⟩, length_taggedBy fun _ => short⟩
  have derived := KeyDerivation.wrappingKey_eq_ok_iff.mpr ⟨sized, rfl⟩
  obtain ⟨wrapped, wraps⟩ := KeyWrap.exists_wrap (KeyDerivation.length_wrappingKey derived)
    (ContentAlgorithm.whole_of_decrypt yields.payload)
  have listed : r.jwe.recipients ≠ [] := List.ne_nil_of_mem
    (List.mem_of_find?_eq_some (Received.entry_eq_ok_iff.mp yields.begins.entry))
  have algorithm :
      (r.resealed h apu recipient.id content tag wrapped).contentAlgorithm = .ok o.enc := by
    rw [← yields.begins.algorithm]
    simp only [Received.contentAlgorithm, Received.resealed, enc]
  have ephemeral : (r.resealed h apu recipient.id content tag wrapped).ephemeral = .ok o.epk := by
    rw [← yields.begins.ephemeral]
    simp only [Received.ephemeral, Received.resealed, epk]
  refine ⟨r.resealed h apu recipient.id content tag wrapped, ?_, rfl, rfl,
    Received.kids_resealed .., ?_⟩
  · exact parse_text_eq_ok_iff.mpr ⟨mt List.map_eq_nil_iff.mp listed, Header.decode_encode h,
      present, consumers⟩
  · exact decrypt_eq_ok_iff.mpr ⟨{ o with
      entry := { o.entry with encryptedKey := Base64Url.encode wrapped }
      wrappingKey := _
      wrapped, content, tag }, {
        begins := ⟨Received.entry_rewrapped yields.begins.entry wrapped, algorithm, ephemeral,
          decodeBase64Url_encode tag⟩
        shared := yields.shared
        derived
        wrapped := decodeBase64Url_encode wrapped
        unwraps := KeyWrap.unwrap_wrap wraps
        content := decodeBase64Url_encode content
        iv := yields.iv
        payload := joined.symm ▸ ContentAlgorithm.decrypt_encrypt encrypts }⟩

end DidMessaging.Jwe
