import DidMessaging.Agent.Packing
import DidMessaging.Proofs.Agent.Candidates
import DidMessaging.Proofs.Agent.Opening
import DidMessaging.Proofs.Agent.Plaintext
import DidMessaging.Proofs.Envelope.Attesting

namespace DidMessaging

open Result

/-- Whether a message is a forward message does not depend on its rotation. -/
theorem Forward.ofMessage?_rotation (m : Message) (r : Option Rotation) :
    ofMessage? { m with rotation := r } =
      (ofMessage? m).map fun f => { f with message := { m with rotation := r } } := by
  unfold ofMessage?
  by_cases named : m.type = type
  · cases nextOf? m.body with
    | none => simp [guard, named]
    | some next =>
        simp only [guard, named, if_true, Option.bind_eq_bind, Option.pure_def, Option.bind_some]
        split
        · next carrying _ => cases carriedBy? carrying <;> rfl
        · rfl
  · simp [guard, named]

/-! Layers around a message, and what they add to the metadata. -/

theorem Json.two_le_length_text (members : Members) :
    2 ≤ (Utf8.encode (Json.object members).text).length := by
  refine Nat.le_trans ?_ (Utf8.length_encode_ge _)
  rw [text, String.toList_ofList, chars]
  cases members with
  | nil => simp [memberChars]
  | cons m members => cases members <;> simp [memberChars, quoted]

namespace Stack

theorem metadata_push_auth {s : Stack} {sender : String} {o : Opened} :
    (s.push (.auth algorithm sender o)).metadata = { s.metadata with
      encrypted := true
      authenticated := true
      encryptedTo := some o.kids
      encryptedFrom := some sender
      authAlgorithm := some algorithm } := by
  simp [push, metadata]

theorem metadata_push_anon {s : Stack} {o : Opened} (noAnon : s.anon = none) :
    (s.push (.anon algorithm o)).metadata = { s.metadata with
      encrypted := true
      anonymousSender := true
      encryptedTo := s.metadata.encryptedTo.or (some o.kids)
      anonAlgorithm := some algorithm } := by
  cases auth : s.auth <;> simp [push, metadata, auth, noAnon]

end Stack

namespace Agent

variable {a b : Agent} {e e' : Entropy} {payload : String}

/-- Only a plaintext message can be carried on. -/
theorem carriedOn?_of_not_plain {options : UnpackOptions}
    (received : Envelope.ofText text = .ok envelope) (notPlain : ∀ value, envelope ≠ .plain value) :
    b.carriedOn? options text = .ok none := by
  unfold carriedOn?
  split
  · unfold carriedToUs?
    refine bind_eq_ok_iff.mpr ⟨envelope, received, ?_⟩
    cases envelope with
    | plain value => exact absurd rfl (notPlain value)
    | signed j => rfl
    | encrypted r => rfl
  · rfl

theorem carriedOn?_of_not_forward {options : UnpackOptions}
    (received : Envelope.ofText text = .ok (.plain value))
    (read : Message.ofWire value = .ok (m, proof)) (notForward : Forward.ofMessage? m = none) :
    b.carriedOn? options text = .ok none := by
  unfold carriedOn?
  split
  · refine bind_eq_ok_iff.mpr ⟨_, received, bind_eq_ok_iff.mpr ⟨_, read, ?_⟩⟩
    simp only [notForward]
    rfl
  · rfl

/-- The rotation is settled alike under any layers. -/
theorem settleRotation_stack {s s' : Stack}
    (settled : b.settleRotation ⟨s.layers, m, proof⟩ = .ok u) :
    b.settleRotation ⟨s'.layers, m, proof⟩ = .ok ⟨u.message, { s'.metadata with
      rotationKid := u.metadata.rotationKid
      rotationJwt := u.metadata.rotationJwt }⟩ := by
  unfold settleRotation at settled ⊢
  rw [Stack.ofLayers_layers] at settled ⊢
  cases proof with
  | none =>
      obtain rfl := pure_eq_ok_iff.mp settled
      rfl
  | some jwt =>
      obtain ⟨⟨r, found⟩, checked, settled⟩ := bind_eq_ok_iff.mp settled
      simp only [ite_throw_eq_ok_iff] at settled
      obtain ⟨subject, settled⟩ := settled
      obtain rfl := pure_eq_ok_iff.mp settled
      refine bind_eq_ok_iff.mpr ⟨_, checked, ?_⟩
      simp only [ite_throw_eq_ok_iff]
      exact ⟨subject, rfl⟩

/-- A message that is unpacked from its plaintext is unpacked alike from layers around it. -/
theorem unpack_of_nested {options plainOptions : UnpackOptions} {s : Stack} {value : Json}
    {plain : String} {d : Metadata} (unpacked : b.unpack plain plainOptions = .ok ⟨m, d⟩)
    (received : Envelope.ofText plain = .ok (.plain value))
    (nested : Nested b options text s.layers value) (enough : s.layers.length < layerLimit text)
    (encryptedBy : ∀ k ∈ s.metadata.encryptedFrom, m.sender = some (Did.ofUrl k))
    (signedBy : ∀ k ∈ s.metadata.signFrom, m.sender = some (Did.ofUrl k)) :
    b.unpack text options = .ok ⟨m, { s.metadata with
      rotationKid := d.rotationKid
      rotationJwt := d.rotationJwt }⟩ := by
  obtain ⟨⟨layers, message, proof⟩, unwrapped, settled, -, -⟩ := unpack_eq_ok_iff.mp unpacked
  obtain ⟨s', value', sameLayers, nested', read⟩ := unwrap_sound unwrapped
  obtain ⟨-, rfl⟩ := nested'.unique (.plain received)
  obtain rfl : s'.layers = layers := sameLayers
  exact unpack_eq_ok_iff.mpr ⟨_, unwrap_complete nested read enough, settleRotation_stack settled,
    encryptedBy, signedBy⟩

/-! The layers that encryption puts around a payload. -/

section

variable {keys : List Key} {partner : Key → Prop} {j : Jwe} {s : Stack}
  {options : UnpackOptions} {value : Json}

theorem nested_of_authcrypt {algorithm : AuthAlgorithm} {sender published : Key}
    (encrypts : Jwe.authcrypt (Utf8.encode payload) algorithm sender keys e = .ok (j, e'))
    (keeps : b.Keeps keys partner) (given : ∀ k, e.Gives k ∨ k = sender → partner k)
    (known : b.verificationKey sender.id = .ok published) (same : sender.SamePoint published)
    (nested : Nested b options payload s.layers value) (within : s.Within .auth) :
    e'.octet = e.octet ∧ ∃ o,
      Nested b options j.text (s.push (.auth algorithm sender.id o)).layers value ∧
      b.carriedOn? options j.text = .ok none ∧ o.kids = b.keyring.held (keys.map (·.id)) := by
  obtain ⟨octet, r, o, received, named, opened, carried, kids⟩ :=
    openAuth_of_authcrypt encrypts keeps given known same
  have inside : payloadText o.payload = .ok payload := by
    rw [carried, payloadText, Utf8.decode?_encode]
  refine ⟨octet, o, ?_, carriedOn?_of_not_plain received (by simp), kids⟩
  rw [Stack.layers_push rfl within]
  exact .layer (.auth received named (opened _) inside) nested

theorem nested_of_anoncrypt {algorithm : AnonAlgorithm}
    (encrypts : Jwe.anoncrypt (Utf8.encode payload) algorithm keys e = .ok (j, e'))
    (keeps : b.Keeps keys partner) (given : ∀ k, e.Gives k → partner k)
    (nested : Nested b options payload s.layers value) (within : s.Within .anon)
    (stays : b.carriedOn? options payload = .ok none) :
    ∃ o, Nested b options j.text (s.push (.anon algorithm o)).layers value ∧
      o.kids = b.keyring.held (keys.map (·.id)) := by
  obtain ⟨-, r, o, received, named, opened, carried, kids⟩ :=
    openAnon_of_anoncrypt encrypts keeps given
  have inside : payloadText o.payload = .ok payload := by
    rw [carried, payloadText, Utf8.decode?_encode]
  refine ⟨o, ?_, kids⟩
  rw [Stack.layers_push rfl within]
  exact .layer (.anon received named (opened _) inside stays) nested

end

/-! What both sides have to know of each other. -/

/-- The keys that a sender may use in an envelope: what the stream gives, and its own. -/
def Uses (a : Agent) (e : Entropy) (fromKid : Option String) (k : Key) : Prop :=
  e.Gives k ∨ ∃ kid ∈ fromKid, a.keyring.key kid = .ok k

/-- The receiver holds one of the keys that the sender knows under the given ids, and has the
private half of each one that it holds; there each partner comes to the same secret as the
receiver. -/
structure Receives (b a : Agent) (recipient : String) (kids : List String) (partner : Key → Prop) :
    Prop where
  holds : ∃ kid ∈ kids, b.keyring.holds kid = true
  secrets : ∀ keys, a.recipientKeys recipient = .ok keys → ∀ key ∈ keys, key.id ∈ kids →
    b.keyring.holds key.id = true → ∃ secret, b.keyring.key key.id = .ok secret ∧
      key.SamePoint secret ∧ ∀ k, partner k → k.Commutes secret

/-- The receiver knows the published half of a key of the sender. -/
def Knows (b a : Agent) (kid : String) : Prop :=
  ∀ key, a.keyring.key kid = .ok key →
    ∃ published, b.verificationKey kid = .ok published ∧ key.SamePoint published

/-- What the agent signs of a text with a key of its own holds under that key. -/
def SignsFor (a : Agent) (text kid : String) : Prop :=
  ∀ key j, a.keyring.key kid = .ok key → Jws.sign (Utf8.encode text) key = .ok j →
    ∀ s ∈ j.signatures, key.SignsFor (Utf8.encode (signingInput s.header j.payload))

/-- The algorithm that the agent signs with when it uses a key. -/
def algorithmOf? (a : Agent) (kid : String) : Option SignatureAlgorithm :=
  (a.keyring.key kid).toOption.bind fun key => (SignatureAlgorithm.ofCurve key.curve).toOption

theorem uses_of_sender {key : Key} (own : a.keyring.key key.id = .ok key) (k : Key)
    (used : e.Gives k ∨ k = key) : a.Uses e (some key.id) k := by
  rcases used with given | rfl
  · exact .inl given
  · exact .inr ⟨k.id, rfl, own⟩

theorem keeps_of_receives {keys all : List Key} {partner : Key → Prop}
    (receives : b.Receives a recipient (keys.map (·.id)) partner)
    (found : a.recipientKeys recipient = .ok all) (listed : ∀ k ∈ keys, k ∈ all) :
    b.Keeps keys partner where
  holds := by
    obtain ⟨kid, member, holds⟩ := receives.holds
    obtain ⟨key, keyListed, rfl⟩ := List.mem_map.mp member
    exact ⟨key, keyListed, holds⟩
  secrets := fun key keyListed holds =>
    receives.secrets all found key (listed key keyListed) (List.mem_map_of_mem keyListed) holds

/-- An agent signs for a text that the algorithm of its key signs correctly. -/
theorem signsFor_of_signs {key : Key} {algorithm : SignatureAlgorithm} {d : Bytes}
    (found : a.keyring.key kid = .ok key) (signs : key.Signs algorithm d)
    (correct : algorithm.Correct d (Utf8.encode (Jws.signedText algorithm (Utf8.encode text)))) :
    a.SignsFor text kid := by
  intro key' j found' made s listed
  obtain rfl := Except.ok.inj (found.symm.trans found')
  obtain ⟨a', d', signature, ofCurve, -, -, rfl⟩ := Jws.sign_sound made
  obtain rfl := List.mem_singleton.mp listed
  obtain rfl := Except.ok.inj (signs.algorithm.symm.trans ofCurve)
  exact signs.signsFor correct

theorem signBy_sound (signs : a.signBy payload signer = .ok (text, kid)) :
    ∃ key j, a.keyring.key kid = .ok key ∧ Jws.sign (Utf8.encode payload) key = .ok j ∧
      j.text = text := by
  unfold signBy at signs
  obtain ⟨key, keyFound, signs⟩ := bind_eq_ok_iff.mp signs
  obtain ⟨j, signed, signs⟩ := bind_eq_ok_iff.mp signs
  obtain ⟨rfl, rfl⟩ := Prod.mk.inj (pure_eq_ok_iff.mp signs)
  obtain ⟨signKid, -, keyFound⟩ := bind_eq_ok_iff.mp keyFound
  obtain rfl := Keyring.id_of_key keyFound
  exact ⟨key, j, keyFound, signed, rfl⟩

/-- The plaintext or its signed envelope, as it lies inside of the encryption. -/
theorem nested_of_payload {options : UnpackOptions} {value : Json} {plain : String}
    {signer signKid : Option String} (made : a.payload plain signer = .ok (payload, signKid))
    (received : Envelope.ofText plain = .ok (.plain value))
    (stays : b.carriedOn? options plain = .ok none)
    (known : ∀ kid ∈ signKid, b.Knows a kid ∧ a.SignsFor plain kid) :
    ∃ s : Stack, Nested b options payload s.layers value ∧ s.Within .auth ∧
      b.carriedOn? options payload = .ok none ∧ s.metadata = {
        authenticated := signer.isSome
        nonRepudiation := signer.isSome
        signFrom := signKid
        signAlgorithm := signKid.bind a.algorithmOf?
        signedText := signKid.map fun _ => payload } := by
  unfold Agent.payload at made
  cases signer with
  | none =>
      obtain ⟨rfl, rfl⟩ := Prod.mk.inj (pure_eq_ok_iff.mp made)
      exact ⟨{}, .plain received, Stack.within_empty _, stays, rfl⟩
  | some signer =>
      obtain ⟨⟨text, kid⟩, signs, made⟩ := bind_eq_ok_iff.mp made
      obtain ⟨rfl, rfl⟩ := Prod.mk.inj (pure_eq_ok_iff.mp made)
      obtain ⟨key, j, keyFound, signed, rfl⟩ := signBy_sound signs
      obtain ⟨knows, correct⟩ := known kid rfl
      obtain ⟨published, publishedFound, same⟩ := knows key keyFound
      obtain ⟨algorithm, ofCurve, signedReceived, checked, decoded⟩ :=
        checkSignatures_of_sign keyFound signed (correct key j keyFound signed) publishedFound same
      have inside : payloadText (Utf8.encode plain) = .ok plain := by
        rw [payloadText, Utf8.decode?_encode]
      refine ⟨{ signed := some (j.text, j, [(kid, algorithm)]) },
        .layer (.signed signedReceived checked decoded inside) (.plain received), ⟨rfl, rfl, rfl⟩,
        carriedOn?_of_not_plain signedReceived (by simp), ?_⟩
      have used : a.algorithmOf? kid = some algorithm := by
        simp [algorithmOf?, keyFound, ofCurve, Except.toOption]
      simp [Stack.metadata, used]

end Agent

end DidMessaging
