import DidMessaging.Proofs.Agent.Unpacking
import DidMessaging.Proofs.Envelope.Encryption
import DidMessaging.Proofs.Envelope.Signing

namespace DidMessaging

open Result

/-! The kinds of texts that were made. -/

namespace Envelope

theorem ofText_jws {j : Jws} (signed : j.signatures ≠ []) :
    ofText j.text = .ok (.signed j) := by
  obtain ⟨members, read, names⟩ := Json.read?_text_object (by simp [Members.names]) j.whole_json
    j.depth_json
  have noRecipients : "recipients" ∉ Members.names members := by
    rw [names]
    simp [Members.names]
  have signatures : "signatures" ∈ Members.names members := by
    rw [names]
    simp [Members.names]
  have parsed := Jws.parse_text signed
  unfold Jws.text Jws.json at parsed ⊢
  rw [ofText_of_object read]
  simp only [List.contains_iff_mem, if_neg noRecipients, if_pos signatures, parsed]
  rfl

theorem ofText_jwe {j : Jwe} (parsed : Jwe.parse j.text = .ok r) :
    ofText j.text = .ok (.encrypted r) := by
  obtain ⟨members, read, names⟩ := Json.read?_text_object (by simp [Members.names]) j.whole_json
    j.depth_json
  exact ofText_encrypted read ((names _).mpr (by simp [Members.names])) parsed

/-- The same envelope when its text was read as a value and written again. -/
theorem ofText_jwe_sorted {j : Jwe} (parsed : Jwe.parse j.text = .ok r) :
    ofText j.json.sorted.text = .ok (.encrypted r) := by
  have whole := Json.whole_sorted j.whole_json
  have deep := Nat.le_trans (Json.depth_sorted_le j.json) j.depth_json
  obtain ⟨members, read, names⟩ :=
    Json.read?_text_object (Members.ofList_sorted _).nodup whole deep
  refine ofText_encrypted read ((names _).mpr ?_) (j.parse_sorted.trans parsed)
  rw [(Members.names_perm (Json.sorted_object_perm (by simp [Members.names]))).mem_iff,
    Json.names_sortedMembers]
  simp [Members.names]

end Envelope

namespace EnvelopeAlgorithm

theorem ofHeader_anon (a : AnonAlgorithm) :
    ofHeader AnonAlgorithm.agreement a.content.name = .ok (.anon a) := by
  simp only [ofHeader, ContentAlgorithm.named?_eq_some_iff.mpr rfl, if_true]

theorem ofHeader_auth (a : AuthAlgorithm) :
    ofHeader AuthAlgorithm.agreement a.content.name = .ok (.auth a) := by
  cases a
  rfl

end EnvelopeAlgorithm

/-! Keys of the receiver. -/

/-- A key that the stream may give. -/
def Entropy.Gives (e : Entropy) (k : Key) : Prop :=
  ∃ curve before after, before.octet = e.octet ∧ Key.ephemeral curve before = .ok (k, after)

theorem Entropy.Gives.of_octet {e e' : Entropy} (given : e'.Gives k)
    (same : e'.octet = e.octet) : e.Gives k := by
  obtain ⟨curve, before, after, octet, drawn⟩ := given
  exact ⟨curve, before, after, octet.trans same, drawn⟩

namespace Agent

/-- The agent has the private half of every one of the keys that it holds, and holds one at least;
with each of the partners it comes to the secret that the partner comes to. -/
structure Keeps (b : Agent) (keys : List Key) (partner : Key → Prop) : Prop where
  holds : ∃ key ∈ keys, b.keyring.holds key.id = true
  secrets : ∀ key ∈ keys, b.keyring.holds key.id = true → ∃ secret,
    b.keyring.key key.id = .ok secret ∧ key.SamePoint secret ∧ ∀ k, partner k → k.Commutes secret

theorem heldKeys_of_keeps {b : Agent} {partner : Key → Prop} (keeps : b.Keeps keys partner) :
    ∃ held, b.heldKeys (keys.map (·.id)) = .ok held ∧ held ≠ [] ∧
      held.map (·.id) = b.keyring.held (keys.map (·.id)) ∧
      ∀ secret ∈ held, secret.id ∈ keys.map (·.id) ∧
        (∀ key ∈ keys, key.id = secret.id → key.SamePoint secret) ∧
        ∀ k, partner k → k.Commutes secret := by
  have listed : ∀ kid ∈ b.keyring.held (keys.map fun key => key.id),
      kid ∈ keys.map (·.id) ∧ b.keyring.holds kid = true :=
    fun kid member => List.mem_filter.mp member
  have each : ∀ kid ∈ b.keyring.held (keys.map (·.id)), ∃ secret,
      b.keyring.key kid = .ok secret := by
    intro kid member
    obtain ⟨inKeys, holds⟩ := listed kid member
    obtain ⟨key, keyListed, rfl⟩ := List.mem_map.mp inKeys
    obtain ⟨secret, found, -⟩ := keeps.secrets key keyListed holds
    exact ⟨secret, found⟩
  obtain ⟨held, found⟩ := exists_mapM each
  have related := mapM_eq_ok_iff.mp found
  have ids : held.map (·.id) = b.keyring.held (keys.map (·.id)) := by
    rw [map_eq_map_of_forall₂ (related.imp fun kid secret => Keyring.id_of_key), List.map_id']
  have some_ : b.keyring.held (keys.map (·.id)) ≠ [] := by
    obtain ⟨key, keyListed, holds⟩ := keeps.holds
    exact List.ne_nil_of_mem (List.mem_filter.mpr ⟨List.mem_map_of_mem keyListed, holds⟩)
  refine ⟨held, ?_, ?_, ids, fun secret member => ?_⟩
  · rw [heldKeys, if_neg (by simpa using some_), found]
  · rintro rfl
    exact some_ ids.symm
  · obtain ⟨kid, kidHeld, secretFound⟩ := exists_of_forall₂ related member
    obtain rfl := Keyring.id_of_key secretFound
    obtain ⟨inKeys, holds⟩ := listed _ kidHeld
    have matching : ∀ key ∈ keys, key.id = secret.id →
        key.SamePoint secret ∧ ∀ k, partner k → k.Commutes secret := by
      intro key keyListed id
      obtain ⟨secret', found', both⟩ := keeps.secrets key keyListed (id ▸ holds)
      rw [id, secretFound] at found'
      exact Except.ok.inj found' ▸ both
    obtain ⟨key, keyListed, id⟩ := List.mem_map.mp inKeys
    exact ⟨inKeys, fun key keyListed id => (matching key keyListed id).1,
      (matching key keyListed id).2⟩

/-! Opening. -/

variable {a b : Agent} {e e' : Entropy} {payload : Bytes} {keys : List Key} {j : Jwe}
  {partner : Key → Prop}

/-- With all keys that the receiver holds an envelope decrypts to what was encrypted, from the
sender that it is expected from. -/
theorem decryptBy_of_encrypt {alg : String} {enc : ContentAlgorithm} {sender known : Option Key}
    (encrypts : Jwe.encrypt payload alg enc sender keys e = .ok (j, e'))
    (sided : Option.Rel Key.SamePoint sender known) (keeps : b.Keeps keys partner)
    (given : ∀ k, e.Gives k ∨ k ∈ sender → partner k) :
    e'.octet = e.octet ∧ keys ≠ [] ∧ ∃ f content tag held,
      Jwe.Assembled f payload alg enc sender keys content tag j ∧
      b.heldKeys (keys.map (·.id)) = .ok held ∧
      held.map (·.id) = b.keyring.held (keys.map (·.id)) ∧ held ≠ [] ∧
      (∀ s ∈ sender, ∀ secret ∈ held, secret.curve = s.curve) ∧
      ∀ all, ∃ kids,
        (j.receive f alg enc sender keys).decryptBy known held all = .ok (payload, kids) := by
  obtain ⟨octet, some_, curve, f, content, tag, between, sameCurve, ephemeral, assembled⟩ :=
    Jwe.encrypt_sound encrypts
  obtain ⟨-, -, jwk, made⟩ := Key.ephemeral_sound ephemeral
  obtain ⟨held, heldFound, someHeld, ids, each⟩ := heldKeys_of_keeps keeps
  refine ⟨octet, some_, f, content, tag, held, assembled, heldFound, ids, someHeld, ?_, fun all =>
    Jwe.Received.decryptBy_complete all someHeld ?_⟩
  · intro s isSender secret member
    obtain ⟨listed, matching, -⟩ := each secret member
    obtain ⟨key, keyListed, id⟩ := List.mem_map.mp listed
    rw [(matching key keyListed id).curve, sameCurve key (List.mem_append_left _ keyListed),
      sameCurve s (List.mem_append_right _ (Option.mem_toList.mpr isSender))]
  · intro secret member
    obtain ⟨listed, matching, commutes⟩ := each secret member
    refine Jwe.Received.decrypt_receive assembled made sided listed matching fun k used => ?_
    rcases List.mem_cons.mp used with rfl | isSender
    · exact commutes _ (given _ (.inl ⟨curve, e, between, rfl, ephemeral⟩))
    · exact commutes k (given k (.inr (Option.mem_toList.mp isSender)))

/-- A receiver with keys of an envelope without a sender opens it, with one of them or with all. -/
theorem openAnon_of_anoncrypt {algorithm : AnonAlgorithm}
    (encrypts : Jwe.anoncrypt payload algorithm keys e = .ok (j, e'))
    (keeps : b.Keeps keys partner) (given : ∀ k, e.Gives k → partner k) :
    e'.octet = e.octet ∧ ∃ r o, Envelope.ofText j.text = .ok (.encrypted r) ∧
      r.algorithm = .ok (.anon algorithm) ∧ (∀ all, b.openAnon all .nothing r = .ok o) ∧
      o.payload = payload ∧ o.kids = b.keyring.held (keys.map (·.id)) := by
  obtain ⟨octet, some_, f, content, tag, held, assembled, heldFound, ids, -, -, decrypts⟩ :=
    decryptBy_of_encrypt encrypts .none keeps fun k used => given k (by simpa using used)
  refine ⟨octet, j.receive f AnonAlgorithm.agreement algorithm.content none keys,
    ⟨j.receive f AnonAlgorithm.agreement algorithm.content none keys, none, held, payload⟩,
    Envelope.ofText_jwe (Jwe.parse_text assembled some_), EnvelopeAlgorithm.ofHeader_anon algorithm,
    fun all => ?_, rfl, ids⟩
  obtain ⟨kids, decrypted⟩ := decrypts all
  have opened := Jwe.Received.anonDecrypt_eq_ok_iff.mpr
    ⟨rfl, rfl, Jwe.Received.checkRecipients_receive assembled, decrypted⟩
  refine openAnon_nothing_eq_ok_iff.mpr ⟨rfl, rfl, ?_, _, opened⟩
  rw [Jwe.Received.kids_receive assembled, heldFound]

/-- A receiver with keys of an envelope from a sender whose published key it knows opens it. -/
theorem openAuth_of_authcrypt {algorithm : AuthAlgorithm} {sender published : Key}
    (encrypts : Jwe.authcrypt payload algorithm sender keys e = .ok (j, e'))
    (keeps : b.Keeps keys partner) (given : ∀ k, e.Gives k ∨ k = sender → partner k)
    (known : b.verificationKey sender.id = .ok published) (same : sender.SamePoint published) :
    e'.octet = e.octet ∧ ∃ r o, Envelope.ofText j.text = .ok (.encrypted r) ∧
      r.algorithm = .ok (.auth algorithm) ∧
      (∀ all, b.openAuth all .nothing r = .ok (sender.id, o)) ∧
      o.payload = payload ∧ o.kids = b.keyring.held (keys.map (·.id)) := by
  obtain ⟨octet, some_, f, content, tag, held, assembled, heldFound, ids, someHeld, sameCurve,
      decrypts⟩ :=
    decryptBy_of_encrypt encrypts (.some same) keeps fun k used =>
      given k (by simpa [eq_comm] using used)
  refine ⟨octet, j.receive f AuthAlgorithm.agreement algorithm.content (some sender) keys,
    ⟨j.receive f AuthAlgorithm.agreement algorithm.content (some sender) keys, some published, held,
      payload⟩,
    Envelope.ofText_jwe (Jwe.parse_text assembled some_), EnvelopeAlgorithm.ofHeader_auth algorithm,
    fun all => ?_, rfl, ids⟩
  obtain ⟨kids, decrypted⟩ := decrypts all
  have id : published.id = sender.id := (verificationKey_sound known).id
  have opened := Jwe.Received.authDecrypt_eq_ok_iff.mpr
    ⟨congrArg some id.symm, Jwe.Received.checkRecipients_receive assembled, decrypted⟩
  have keysFound : b.authDecryptKeys sender.id
      (j.receive f AuthAlgorithm.agreement algorithm.content (some sender) keys).kids =
        .ok (published, held) := by
    have tried : onCurve published.curve held = held :=
      List.filter_eq_self.mpr fun secret member =>
        decide_eq_true ((sameCurve sender rfl secret member).trans same.curve.symm)
    rw [Jwe.Received.kids_receive assembled]
    exact authDecryptKeys_eq_ok_iff.mpr ⟨known, held, heldFound, tried, someHeld⟩
  exact openAuth_nothing_eq_ok_iff.mpr ⟨Jwe.Received.withSender_receive,
    Jwe.Received.sender_receive, published, rfl, keysFound, _, opened⟩

/-- A receiver who knows the published key of a signer finds its one signature to hold. -/
theorem checkSignatures_of_sign {j : Jws} {key published : Key}
    (found : a.keyring.key kid = .ok key) (signs : Jws.sign payload key = .ok j)
    (correct : ∀ s ∈ j.signatures, key.SignsFor (Utf8.encode (signingInput s.header j.payload)))
    (known : b.verificationKey kid = .ok published) (same : key.SamePoint published) :
    ∃ algorithm, SignatureAlgorithm.ofCurve key.curve = .ok algorithm ∧
      Envelope.ofText j.text = .ok (.signed j) ∧
      b.checkSignatures j = .ok [(kid, algorithm)] ∧ j.decodePayload = .ok payload := by
  obtain ⟨jwk, made⟩ := Keyring.ofJwk_of_key found
  obtain ⟨s, algorithm, rfl, id, ofCurve, named, verified⟩ :=
    Jws.verify_of_sign (fun _ => Key.exists_verifyingBytes made) same signs correct
  refine ⟨algorithm, ofCurve, Envelope.ofText_jws (List.cons_ne_nil _ _), ?_,
    decodeBase64Url_encode payload⟩
  have signer : s.kid = kid := id.trans (Keyring.id_of_key found)
  have publishedId : published.id = kid := (verificationKey_sound known).id
  refine mapM_eq_ok_iff.mpr (.cons ?_ .nil)
  rw [← signer] at known
  refine bind_eq_ok_iff.mpr ⟨algorithm, named, bind_eq_ok_iff.mpr ⟨published, known, ?_⟩⟩
  exact check_bind_eq_ok_iff.mpr ⟨verified, by rw [publishedId]; rfl⟩

end Agent

end DidMessaging
