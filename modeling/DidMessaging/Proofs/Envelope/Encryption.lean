import DidMessaging.Proofs.Cipher.Content
import DidMessaging.Proofs.Cipher.KeyWrap
import DidMessaging.Proofs.Envelope.Decryption
import DidMessaging.Proofs.Envelope.Text
import DidMessaging.Proofs.Key.Agreement
import DidMessaging.Proofs.Key.Derivation

namespace DidMessaging.Jwe

open Result

variable {f : Fresh} {payload content tag : Bytes} {alg : String} {enc : ContentAlgorithm}
  {sender : Option Key} {recipients : List Key} {j : Jwe}

/-- The octets that the header commits to the recipients with. -/
def commitment (recipients : List Key) : Bytes :=
  sha256 (Utf8.encode (recipientsText (recipients.map (·.id))))

/-- What an envelope was assembled from: its parts are the text of these. -/
structure Assembled (f : Fresh) (payload : Bytes) (alg : String) (enc : ContentAlgorithm)
    (sender : Option Key) (recipients : List Key) (content tag : Bytes) (j : Jwe) : Prop where
  headerText : j.header =
    Base64Url.encode (Utf8.encode (headerFor alg enc sender recipients f.ephemeral).json.text)
  contentText : j.ciphertext = Base64Url.encode content
  tagText : j.tag = Base64Url.encode tag
  ivText : j.iv = Base64Url.encode f.iv
  encrypted : enc.encrypt f.iv f.contentKey payload (Utf8.encode j.header) = .ok (content ++ tag)
  wrapped : List.Forall₂
    (fun key entry => wrapFor f alg sender (commitment recipients) tag key = .ok entry)
    recipients j.recipients

theorem assemble_sound (assembles : assemble f payload alg enc sender recipients = .ok j) :
    ∃ content tag, Assembled f payload alg enc sender recipients content tag j := by
  unfold assemble at assembles
  obtain ⟨whole, encrypts, assembles⟩ := bind_eq_ok_iff.mp assembles
  simp only [List.splitAt_eq] at assembles
  obtain ⟨apv, decoded, assembles⟩ := bind_eq_ok_iff.mp assembles
  obtain ⟨entries, wraps, assembles⟩ := bind_eq_ok_iff.mp assembles
  obtain rfl := pure_eq_ok_iff.mp assembles
  have same : apv = commitment recipients := by
    rw [headerFor, recipientsHash, decodeBase64Url_encode] at decoded
    exact (Except.ok.inj decoded).symm
  subst same
  refine ⟨whole.take (whole.length - enc.tagSize), whole.drop (whole.length - enc.tagSize),
    rfl, rfl, rfl, rfl, ?_, mapM_eq_ok_iff.mp wraps⟩
  rw [List.take_append_drop]
  exact encrypts

theorem wrapFor_sound {apv : Bytes} {key : Key} {entry : Recipient}
    (wraps : wrapFor f alg sender apv tag key = .ok entry) :
    entry.kid = key.id ∧ ∃ z wrappingKey wrapped,
      sharedBySender f.ephemeral sender key = .ok z ∧
      KeyDerivation.wrappingKey z alg (sender.map fun key => Utf8.encode key.id) (some apv)
        (sender.map fun _ => tag) = .ok wrappingKey ∧
      KeyWrap.wrap wrappingKey f.contentKey = .ok wrapped ∧
      entry.encryptedKey = Base64Url.encode wrapped := by
  unfold wrapFor at wraps
  obtain ⟨z, shared, wraps⟩ := bind_eq_ok_iff.mp wraps
  obtain ⟨wrappingKey, derived, wraps⟩ := bind_eq_ok_iff.mp wraps
  obtain ⟨wrapped, isWrapped, wraps⟩ := bind_eq_ok_iff.mp wraps
  obtain rfl := pure_eq_ok_iff.mp wraps
  exact ⟨rfl, z, wrappingKey, wrapped, shared, derived, isWrapped, rfl⟩

theorem commonCurve_sound (common : commonCurve sender recipients = .ok curve) :
    recipients ≠ [] ∧ ∀ key ∈ recipients ++ sender.toList, key.curve = curve := by
  unfold commonCurve at common
  cases recipients with
  | nil => simp at common
  | cons first rest =>
      refine ⟨List.cons_ne_nil _ _, fun key member => ?_⟩
      simp only [List.head?_cons] at common
      split at common
      · simp at common
      · next noOther =>
          obtain rfl := pure_eq_ok_iff.mp common
          simpa using List.find?_eq_none.mp noOther key member

theorem fresh_sound (drawn : fresh curve enc e = .ok (f, e')) :
    e'.octet = e.octet ∧ ∃ between, Key.ephemeral curve e = .ok (f.ephemeral, between) := by
  unfold fresh at drawn
  obtain ⟨key, afterKey, ephemeral, drawn⟩ := Drawn.bind_eq_ok_iff.mp drawn
  obtain ⟨contentKey, afterContentKey, contentDrawn, drawn⟩ := Drawn.bind_eq_ok_iff.mp drawn
  obtain ⟨iv, afterIv, ivDrawn, drawn⟩ := Drawn.bind_eq_ok_iff.mp drawn
  obtain ⟨rfl, rfl⟩ := Drawn.pure_eq_ok_iff.mp drawn
  refine ⟨?_, afterKey, ephemeral⟩
  rw [Key.octet_of_bytes ivDrawn, Key.octet_of_bytes contentDrawn,
    (Key.ephemeral_sound ephemeral).1]

theorem encrypt_eq_ok_iff :
    encrypt payload alg enc sender recipients e = .ok (j, e') ↔
      ∃ curve f, commonCurve sender recipients = .ok curve ∧ fresh curve enc e = .ok (f, e') ∧
        assemble f payload alg enc sender recipients = .ok j := by
  unfold encrypt
  constructor
  · intro encrypts
    obtain ⟨curve, common, encrypts⟩ := Drawn.lift_bind_eq_ok_iff.mp encrypts
    obtain ⟨f, between, drawn, encrypts⟩ := Drawn.bind_eq_ok_iff.mp encrypts
    obtain ⟨assembles, rfl⟩ := Drawn.lift_eq_ok_iff.mp encrypts
    exact ⟨curve, f, common, drawn, assembles⟩
  · rintro ⟨curve, f, common, drawn, assembles⟩
    exact Drawn.lift_bind_eq_ok_iff.mpr ⟨curve, common,
      Drawn.bind_eq_ok_iff.mpr ⟨f, e', drawn, Drawn.lift_eq_ok_iff.mpr ⟨assembles, rfl⟩⟩⟩

/-- An envelope is assembled from fresh material on the one curve of all its keys. -/
theorem encrypt_sound (encrypts : encrypt payload alg enc sender recipients e = .ok (j, e')) :
    e'.octet = e.octet ∧ recipients ≠ [] ∧ ∃ curve f content tag between,
      (∀ key ∈ recipients ++ sender.toList, key.curve = curve) ∧
      Key.ephemeral curve e = .ok (f.ephemeral, between) ∧
      Assembled f payload alg enc sender recipients content tag j := by
  obtain ⟨curve, f, common, drawn, assembles⟩ := encrypt_eq_ok_iff.mp encrypts
  obtain ⟨some_, sameCurve⟩ := commonCurve_sound common
  obtain ⟨octet, afterKey, ephemeral⟩ := fresh_sound drawn
  obtain ⟨content, tag, assembled⟩ := assemble_sound assembles
  exact ⟨octet, some_, curve, f, content, tag, afterKey, sameCurve, ephemeral, assembled⟩

/-! Nothing but the keys, and an id that is too long to be written down, can keep an envelope from
being made. -/

theorem length_commitment (recipients : List Key) : (commitment recipients).length = 32 :=
  length_sha256 _

theorem wrapFor_complete {alg : String} {apv tag : Bytes} {key : Key}
    (whole : f.contentKey.length % 8 = 0)
    (agrees : ∃ z, sharedBySender f.ephemeral sender key = .ok z)
    (sized : ∀ z, KeyDerivation.Arguments.Sized ⟨z, alg, sender.map fun key => Utf8.encode key.id,
      some apv, sender.map fun _ => tag⟩) :
    ∃ wrapping, wrapFor f alg sender apv tag key = .ok wrapping := by
  obtain ⟨z, shared⟩ := agrees
  have derived := KeyDerivation.wrappingKey_eq_ok_iff.mpr ⟨sized z, rfl⟩
  obtain ⟨wrapped, isWrapped⟩ := KeyWrap.exists_wrap (KeyDerivation.length_wrappingKey derived) whole
  exact ⟨_, bind_eq_ok_iff.mpr ⟨z, shared, bind_eq_ok_iff.mpr ⟨_, derived,
    bind_eq_ok_iff.mpr ⟨wrapped, isWrapped, rfl⟩⟩⟩⟩

/-- The names that go into the wrapping keys are short enough for it. -/
structure Sized (alg : String) (sender : Option Key) : Prop where
  algorithm : (Utf8.encode alg).length < 2 ^ 32
  sender : ∀ key ∈ sender, (Utf8.encode key.id).length < 2 ^ 32

theorem sized_auth (key : Key) (short : (Utf8.encode key.id).length < 2 ^ 32) :
    Sized AuthAlgorithm.agreement (some key) where
  algorithm := by decide
  sender := by
    rintro _ ⟨⟩
    exact short

theorem sized_anon : Sized AnonAlgorithm.agreement none where
  algorithm := by decide
  sender := nofun

/-- The tag goes into a wrapping key only where there is a sender. -/
theorem length_taggedBy (short : sender.isSome → tag.length < 2 ^ 32) :
    ((sender.map fun _ => tag).getD []).length < 2 ^ 32 := by
  cases sender with
  | none => exact Nat.two_pow_pos 32
  | some key => exact short rfl

theorem Sized.arguments (sized : Sized alg sender) (short : tag.length < 2 ^ 32) (z : Bytes)
    (recipients : List Key) :
    KeyDerivation.Arguments.Sized ⟨z, alg, sender.map fun key => Utf8.encode key.id,
      some (commitment recipients), sender.map fun _ => tag⟩ where
  algorithm := sized.algorithm
  producer := by
    cases sender with
    | none => exact Nat.two_pow_pos 32
    | some key => exact sized.sender key rfl
  consumer := by
    rw [Option.getD_some, length_commitment]
    decide
  tag := length_taggedBy fun _ => short

theorem assemble_complete (payload : Bytes) (sizedIv : f.iv.length = enc.ivSize)
    (sizedKey : f.contentKey.length = enc.keySize) (sized : Sized alg sender)
    (agrees : ∀ key ∈ recipients, ∃ z, sharedBySender f.ephemeral sender key = .ok z) :
    ∃ j, assemble f payload alg enc sender recipients = .ok j := by
  have whole : f.contentKey.length % 8 = 0 := by
    rw [sizedKey]
    cases enc <;> rfl
  obtain ⟨sealed, encrypts⟩ := ContentAlgorithm.exists_encrypt sizedIv sizedKey payload
    (Utf8.encode (Base64Url.encode
      (Utf8.encode (headerFor alg enc sender recipients f.ephemeral).json.text)))
  have short := enc.length_tag_lt sealed
  obtain ⟨entries, wraps⟩ := exists_mapM fun key member =>
    wrapFor_complete whole (agrees key member) fun z => sized.arguments short z recipients
  simp only [assemble, List.splitAt_eq, bind_eq_ok_iff, pure_eq_ok_iff]
  exact ⟨_, sealed, encrypts, _, decodeBase64Url_encode _, entries, wraps, rfl⟩

theorem commonCurve_complete (some_ : recipients ≠ [])
    (sameCurve : ∀ key ∈ recipients ++ sender.toList, key.curve = curve) :
    commonCurve sender recipients = .ok curve := by
  obtain ⟨first, rest, rfl⟩ := List.exists_cons_of_ne_nil some_
  have onCurve : first.curve = curve := sameCurve first List.mem_cons_self
  have noOther : (first :: rest ++ sender.toList).find? (·.curve ≠ curve) = none :=
    List.find?_eq_none.mpr fun key member => by simp [sameCurve key member]
  unfold commonCurve
  simp only [List.head?_cons, onCurve, noOther]
  rfl

/-- The recipients alone decide on the curve; a sender only has to be on it. -/
theorem commonCurve_none (common : commonCurve sender recipients = .ok curve) :
    commonCurve none recipients = .ok curve := by
  obtain ⟨some_, sameCurve⟩ := commonCurve_sound common
  refine commonCurve_complete some_ fun key member => sameCurve key ?_
  rw [Option.toList_none, List.append_nil] at member
  exact List.mem_append_left _ member

theorem fresh_complete (enc : ContentAlgorithm)
    (drawn : Key.ephemeral curve e = .ok (k, between)) :
    ∃ f e', fresh curve enc e = .ok (f, e') ∧ f.ephemeral = k ∧
      f.contentKey.length = enc.keySize ∧ f.iv.length = enc.ivSize := by
  refine ⟨⟨k, (between.take enc.keySize).1, ((between.take enc.keySize).2.take enc.ivSize).1⟩,
    ((between.take enc.keySize).2.take enc.ivSize).2, ?_, rfl, ?_, ?_⟩
  · exact Drawn.bind_eq_ok_iff.mpr ⟨_, _, drawn, rfl⟩
  · exact Entropy.length_take _ _
  · exact Entropy.length_take _ _

/-- Keys on one curve that agree with a fresh key, and with the sender's, can be encrypted for. -/
theorem encrypt_complete (payload : Bytes) (enc : ContentAlgorithm) {k : Key}
    (sized : Sized alg sender) (some_ : recipients ≠ [])
    (sameCurve : ∀ key ∈ recipients ++ sender.toList, key.curve = curve)
    (drawn : Key.ephemeral curve e = .ok (k, between))
    (agrees : ∀ key ∈ recipients, ∃ z, sharedBySender k sender key = .ok z) :
    ∃ j e', encrypt payload alg enc sender recipients e = .ok (j, e') := by
  obtain ⟨f, e', fresh, rfl, sizedKey, sizedIv⟩ := fresh_complete enc drawn
  obtain ⟨j, assembles⟩ := assemble_complete payload sizedIv sizedKey sized agrees
  exact ⟨j, e', encrypt_eq_ok_iff.mpr
    ⟨curve, f, commonCurve_complete some_ sameCurve, fresh, assembles⟩⟩

namespace Assembled

theorem kids (assembled : Assembled f payload alg enc sender recipients content tag j) :
    j.recipients.map (·.kid) = recipients.map (·.id) :=
  map_eq_map_of_forall₂ (assembled.wrapped.imp fun _ _ wraps => (wrapFor_sound wraps).1)

end Assembled

/-- An assembled envelope as it is received. -/
def receive (j : Jwe) (f : Fresh) (alg : String) (enc : ContentAlgorithm) (sender : Option Key)
    (recipients : List Key) : Received where
  jwe := j
  header := headerFor alg enc sender recipients f.ephemeral
  apu := sender.map fun key => Utf8.encode key.id
  apv := commitment recipients

/-- An envelope whose header was written is read with that header. -/
theorem parse_of_header {h : Header} {apu : Option Bytes} {apv : Bytes}
    (headerText : j.header = Base64Url.encode (Utf8.encode h.json.text))
    (some_ : j.recipients ≠ []) (producer : h.apu.mapM decodeBase64Url = .ok apu)
    (consumers : decodeBase64Url h.apv = .ok apv) :
    parse j.text = .ok { jwe := j, header := h, apu, apv } := by
  have read : (Json.Tree.read? j.text).bind read? = some j := by
    rw [text, Json.Tree.read?_text j.whole_json j.depth_json, Option.bind_some, read?_json]
  have listed : j.recipients.isEmpty = false := List.isEmpty_eq_false_iff.mpr some_
  unfold parse
  simp only [read, listed, Bool.false_eq_true, if_false]
  refine bind_eq_ok_iff.mpr ⟨h, ?_, bind_eq_ok_iff.mpr ⟨apu, producer,
    bind_eq_ok_iff.mpr ⟨apv, consumers, rfl⟩⟩⟩
  rw [headerText]
  exact Header.decode_encode h

theorem parse_text (assembled : Assembled f payload alg enc sender recipients content tag j)
    (some_ : recipients ≠ []) :
    parse j.text = .ok (j.receive f alg enc sender recipients) := by
  have listed : j.recipients ≠ [] := by
    intro none_
    have empty := assembled.kids
    rw [none_, List.map_nil] at empty
    exact some_ (List.map_eq_nil_iff.mp empty.symm)
  have producer : (headerFor alg enc sender recipients f.ephemeral).apu.mapM decodeBase64Url =
      .ok (sender.map fun key => Utf8.encode key.id) := by
    cases sender with
    | none => rfl
    | some key =>
        simp only [headerFor, Option.map_some, Option.mapM_some, decodeBase64Url_encode]
        rfl
  exact parse_of_header assembled.headerText listed producer (decodeBase64Url_encode _)

namespace Received

theorem kids_receive (assembled : Assembled f payload alg enc sender recipients content tag j) :
    (j.receive f alg enc sender recipients).kids = recipients.map (·.id) :=
  assembled.kids

theorem checkRecipients_receive
    (assembled : Assembled f payload alg enc sender recipients content tag j) :
    (j.receive f alg enc sender recipients).checkRecipients = .ok () := by
  rw [checkRecipients, kids_receive assembled]
  exact if_pos rfl

theorem sender_receive {key : Key} :
    (j.receive f alg enc (some key) recipients).sender = .ok key.id := by
  simp only [sender, receive, headerFor, Option.map_some, Utf8.decode?_encode, if_true]
  rfl

theorem withSender_receive {key : Key} :
    (j.receive f alg enc (some key) recipients).withSender =
      .ok (j.receive f alg enc (some key) recipients) := by
  rw [withSender, sender_receive]
  rfl

/-- The ephemeral key is read from the header with the coordinates that were drawn. -/
theorem ephemeral_receive {jwk : Jwk} (made : Key.ofJwk "" jwk = .ok f.ephemeral) :
    (j.receive f alg enc sender recipients).ephemeral =
      .ok { f.ephemeral.toPublic with id := "epk" } := by
  have read := Key.ofJwk_toPublic made "epk"
  simp only [ephemeral, receive, headerFor, read]

/-- The entry for a kid was wrapped for a key of that id. -/
theorem entry_receive (assembled : Assembled f payload alg enc sender recipients content tag j)
    {kid : String} (listed : kid ∈ recipients.map (·.id)) :
    ∃ wrapping key, (j.receive f alg enc sender recipients).entry kid = .ok wrapping ∧
      key ∈ recipients ∧ key.id = kid ∧
      wrapFor f alg sender (commitment recipients) tag key = .ok wrapping := by
  rw [← assembled.kids] at listed
  obtain ⟨candidate, member, named⟩ := List.mem_map.mp listed
  cases found : j.recipients.find? (·.kid = kid) with
  | none =>
      have other := List.find?_eq_none.mp found candidate member
      simp [named] at other
  | some wrapping =>
      have sameKid : wrapping.kid = kid := by simpa using List.find?_some found
      obtain ⟨key, keyListed, wraps⟩ :=
        exists_of_forall₂ assembled.wrapped (List.mem_of_find?_eq_some found)
      refine ⟨wrapping, key, ?_, keyListed, (wrapFor_sound wraps).1.symm.trans sameKid, wraps⟩
      simp only [entry, receive, found]

/-- A recipient comes to the secret of the sender's side: with the key that was drawn, and with the
sender's where there is one. -/
theorem secret_of_sharedBySender {known : Option Key} {ephemeral drawn key recipient : Key}
    (sided : Option.Rel Key.SamePoint sender known) (same : ephemeral.SamePoint drawn)
    (matching : key.SamePoint recipient)
    (commutes : ∀ k ∈ ephemeral :: sender.toList, k.Commutes recipient)
    (shared : sharedBySender ephemeral sender key = .ok z) :
    secret recipient drawn known = .ok z := by
  unfold sharedBySender at shared
  obtain ⟨z, agrees, shared⟩ := bind_eq_ok_iff.mp shared
  have found : sharedByRecipient recipient drawn = .ok z := by
    rw [sharedByRecipient,
      Key.agree_of_commutes matching (commutes _ List.mem_cons_self) same agrees]
  refine bind_eq_ok_iff.mpr ⟨z, found, ?_⟩
  cases sided with
  | none => exact shared
  | @some sender published samePublished =>
      obtain ⟨z', agrees', shared⟩ := bind_eq_ok_iff.mp shared
      have commutes := commutes sender (by simp)
      exact bind_eq_ok_iff.mpr
        ⟨z', Key.agree_of_commutes matching commutes samePublished agrees', shared⟩

/-- A recipient with the private half of a key that the envelope is for has the payload. -/
theorem decrypt_receive (assembled : Assembled f payload alg enc sender recipients content tag j)
    {jwk : Jwk} (made : Key.ofJwk "" jwk = .ok f.ephemeral) {known : Option Key}
    (sided : Option.Rel Key.SamePoint sender known) {recipient : Key}
    (listed : recipient.id ∈ recipients.map (·.id))
    (matching : ∀ key ∈ recipients, key.id = recipient.id → key.SamePoint recipient)
    (commutes : ∀ k ∈ f.ephemeral :: sender.toList, k.Commutes recipient) :
    (j.receive f alg enc sender recipients).decrypt known recipient = .ok payload := by
  obtain ⟨wrapping, key, entryFound, keyListed, id, wraps⟩ := entry_receive assembled listed
  obtain ⟨-, z, wrappingKey, wrapped, shared, derived, isWrapped, entryText⟩ := wrapFor_sound wraps
  have algorithm : (j.receive f alg enc sender recipients).contentAlgorithm = .ok enc := by
    simp only [contentAlgorithm, receive, headerFor,
      ContentAlgorithm.named?_eq_some_iff.mpr rfl]
  have same : f.ephemeral.SamePoint { f.ephemeral.toPublic with id := "epk" } :=
    Key.samePoint_of_jwk rfl rfl rfl
  have found := secret_of_sharedBySender sided same (matching key keyListed id) commutes shared
  have tagged : (known.map fun _ => tag) = sender.map fun _ => tag := by
    cases sided <;> rfl
  unfold decrypt
  refine bind_eq_ok_iff.mpr ⟨wrapping, entryFound, bind_eq_ok_iff.mpr ⟨enc, algorithm,
    bind_eq_ok_iff.mpr ⟨_, ephemeral_receive made, bind_eq_ok_iff.mpr ⟨tag, ?_,
    bind_eq_ok_iff.mpr ⟨z, found, bind_eq_ok_iff.mpr ⟨wrappingKey, tagged ▸ derived,
    bind_eq_ok_iff.mpr ⟨wrapped, ?_,
    bind_eq_ok_iff.mpr ⟨f.contentKey, KeyWrap.unwrap_wrap isWrapped,
    bind_eq_ok_iff.mpr ⟨content, ?_, bind_eq_ok_iff.mpr ⟨f.iv, ?_, ?_⟩⟩⟩⟩⟩⟩⟩⟩⟩⟩
  · rw [receive, assembled.tagText, decodeBase64Url_encode]
  · rw [entryText, decodeBase64Url_encode]
  · rw [receive, assembled.contentText, decodeBase64Url_encode]
  · rw [receive, assembled.ivText, decodeBase64Url_encode]
  · exact ContentAlgorithm.decrypt_encrypt assembled.encrypted

end Received

end DidMessaging.Jwe
