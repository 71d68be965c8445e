import DidMessaging.Proofs.Agent.Candidates
import DidMessaging.Proofs.Agent.Encrypted
import DidMessaging.Proofs.Key.Fitting

namespace DidMessaging

open Result

/-! Looking a key up does not fail for want of keys that go together. -/

theorem Keyring.fits_key (k : Keyring) (kid : String) : Fits (k.key kid) := by
  unfold key
  split
  · exact Key.fits_ofSecret _
  · exact fits_error_iff.mpr rfl

theorem Directory.fits_document (d : Directory) (did : String) : Fits (d.document did) := by
  unfold document resolve
  refine Fits.bind ?_ fun found _ => ?_
  · split <;> simp
  · split <;> simp

theorem Document.fits_method (d : Document) (kid : String) : Fits (d.method kid) := by
  unfold method
  split <;> simp

/-! Encrypting. -/

theorem KeyWrap.fits_wrap (wrappingKey key : Bytes) : Fits (wrap wrappingKey key) := by
  unfold wrap
  split
  · exact fits_error_iff.mpr rfl
  · split <;> simp

theorem KeyDerivation.fits_wrappingKey (secret : Bytes) (algorithm : String)
    (producer consumer tag : Option Bytes) :
    Fits (wrappingKey secret algorithm producer consumer tag) := by
  intro e fails
  obtain ⟨-, rfl⟩ := wrappingKey_eq_error_iff.mp fails
  rfl

theorem ContentAlgorithm.fits_encrypt (a : ContentAlgorithm) (iv key message associated : Bytes) :
    Fits (a.encrypt iv key message associated) := by
  refine Fits.bind ?_ fun _ _ => fits_pure _
  unfold checkSizes
  split
  · exact fits_error_iff.mpr rfl
  · split <;> simp

namespace Jwe

variable {f : Fresh} {sender : Option Key} {recipients : List Key} {recipient ephemeral : Key}

theorem fits_sharedBySender (fresh : ephemeral.curve = recipient.curve)
    (own : ∀ key ∈ sender, key.curve = recipient.curve) :
    Fits (sharedBySender ephemeral sender recipient) := by
  refine (Key.fits_agree fresh).bind fun z _ => ?_
  cases sender with
  | none => exact fits_pure _
  | some key => exact (Key.fits_agree (own key rfl)).bind fun _ _ => fits_pure _

theorem fits_assemble (payload : Bytes) (alg : String) (enc : ContentAlgorithm)
    (fresh : f.ephemeral.curve = curve)
    (sameCurve : ∀ key ∈ recipients ++ sender.toList, key.curve = curve) :
    Fits (assemble f payload alg enc sender recipients) := by
  have own (key : Key) (isSender : key ∈ sender) : key.curve = curve :=
    sameCurve key (List.mem_append_right _ (Option.mem_toList.mpr isSender))
  refine (enc.fits_encrypt _ _ _ _).bind fun sealed _ =>
    (fits_decodeBase64Url _).bind fun apv _ => Fits.bind (.mapM fun recipient listed => ?_)
      fun _ _ => fits_pure _
  have onCurve := sameCurve recipient (List.mem_append_left _ listed)
  exact (fits_sharedBySender (fresh.trans onCurve.symm)
    fun key isSender => (own key isSender).trans onCurve.symm).bind
      fun _ _ => (KeyDerivation.fits_wrappingKey _ _ _ _ _).bind
        fun _ _ => (KeyWrap.fits_wrap _ _).bind fun _ _ => fits_pure _

/-- Encrypting with keys on one curve is never refused because they would not go together. -/
theorem fits_encrypt (payload : Bytes) (alg : String) (enc : ContentAlgorithm) (e : Entropy)
    (some_ : recipients ≠ [])
    (sameCurve : ∀ key ∈ recipients ++ sender.toList, key.curve = curve) :
    Fits (encrypt payload alg enc sender recipients e) := by
  have common := commonCurve_complete some_ sameCurve
  refine Fits.draw (Fits.lift (common ▸ fits_ok _)) fun curve' e' found => ?_
  obtain ⟨common', rfl⟩ := Drawn.lift_eq_ok_iff.mp found
  obtain rfl := Except.ok.inj (common.symm.trans common')
  refine Fits.draw ?_ fun f after drawn => ?_
  · exact Fits.draw (Key.fits_ephemeral curve e') fun _ _ _ => fits_ok _
  -- The key that is drawn is on the common curve as well, so that all agreements are on it.
  · obtain ⟨-, between, ephemeral⟩ := fresh_sound drawn
    exact (fits_assemble payload alg enc (Key.ephemeral_sound ephemeral).2.1 sameCurve).lift

end Jwe

namespace Agent

variable {a : Agent} {sender recipient : String} {kids : List String} {key : Key}
  {keys candidates : List Key}

/-! Choosing. -/

theorem fits_recipientKeys (a : Agent) (recipient : String) : Fits (a.recipientKeys recipient) := by
  refine (Directory.fits_document _ _).bind fun doc _ => ?_
  split
  · exact Fits.check rfl fun _ => (doc.fits_method _).bind fun _ _ =>
      (Key.fits_ofMethod _).bind fun _ _ => fits_pure _
  · exact Fits.check rfl fun _ => (Fits.mapM fun _ _ => doc.fits_method _).bind fun _ _ =>
      .mapM fun _ _ => Key.fits_ofMethod _

theorem fits_senderKids (a : Agent) (doc : Document) (sender : String) :
    Fits (a.senderKids doc sender) := by
  unfold senderKids
  split
  · split <;> simp
  · dsimp only
    split <;> simp

theorem fits_firstCompatible (a : Agent) (candidates : List Key) (kids : List String) :
    Fits (a.firstCompatible candidates kids) := by
  induction kids with
  | nil => exact fits_ok _
  | cons kid kids ih =>
      refine (a.keyring.fits_key kid).bind fun key _ => ?_
      dsimp only
      split
      · exact ih
      · exact fits_pure _

/-- Keys are said to be incompatible only after every one of the sender's was tried. -/
theorem authcryptKeys_eq_incompatible_iff {cause : Incompatible} :
    a.authcryptKeys sender recipient = .error (.incompatible cause) ↔
      cause = .noCommonCurve sender recipient ∧ ∃ candidates kids,
        a.Candidates recipient candidates ∧ a.SenderKids sender kids ∧
        ∀ kid ∈ kids, a.Unfit candidates kid := by
  unfold authcryptKeys
  constructor
  · intro refused
    rcases bind_eq_error_iff.mp refused with failed | ⟨doc, known, refused⟩
    · cases Directory.fits_document _ _ _ failed
    rcases bind_eq_error_iff.mp refused with failed | ⟨candidates, listed, refused⟩
    · cases a.fits_recipientKeys _ _ failed
    rcases bind_eq_error_iff.mp refused with failed | ⟨kids, tried, refused⟩
    · cases a.fits_senderKids _ _ _ failed
    rcases bind_eq_error_iff.mp refused with failed | ⟨answer, searched, refused⟩
    · cases a.fits_firstCompatible _ _ _ failed
    cases answer with
    | none =>
        obtain rfl := Error.incompatible.inj (Except.error.inj refused)
        exact ⟨rfl, candidates, kids, recipientKeys_eq_ok_iff.mp listed,
          senderKids_eq_ok_iff.mp ⟨doc, known, tried⟩, firstCompatible_eq_none_iff.mp searched⟩
    | some pair => contradiction
  · rintro ⟨rfl, candidates, kids, listed, tried, unfit⟩
    obtain ⟨doc, known, tried⟩ := senderKids_eq_ok_iff.mpr tried
    exact bind_error_of_ok known (bind_error_of_ok (recipientKeys_eq_ok_iff.mpr listed)
      (bind_error_of_ok tried (bind_error_of_ok (firstCompatible_eq_none_iff.mpr unfit) rfl)))

/-- What a sender takes is on one curve, so that encrypting for it is never refused because the keys
would not go together. -/
theorem fits_encrypt_authcryptKeys (found : a.authcryptKeys sender recipient = .ok (key, keys))
    (payload : Bytes) (alg : String) (enc : ContentAlgorithm) (e : Entropy) :
    Fits (Jwe.encrypt payload alg enc (some key) keys e) := by
  obtain ⟨candidates, kids, -, -, searched⟩ := authcryptKeys_eq_ok_iff.mp found
  obtain ⟨before, kid, after, -, -, -, rfl, some_⟩ := firstCompatible_eq_some_iff.mp searched
  have sameCurve : ∀ k ∈ onCurve key.curve candidates ++ (some key).toList, k.curve = key.curve := by
    intro k member
    rcases List.mem_append.mp member with listed | isSender
    · exact of_decide_eq_true (List.mem_filter.mp listed).2
    · rw [Option.mem_some.mp (Option.mem_toList.mp isSender)]
  exact Jwe.fits_encrypt payload alg enc e some_ sameCurve

theorem fits_encrypt_anoncryptKeys (found : a.anoncryptKeys recipient = .ok keys)
    (payload : Bytes) (alg : String) (enc : ContentAlgorithm) (e : Entropy) :
    Fits (Jwe.encrypt payload alg enc none keys e) := by
  obtain ⟨first, rest, -, rfl⟩ := anoncryptKeys_eq_ok_iff.mp found
  have sameCurve : ∀ k ∈ onCurve first.curve (first :: rest) ++ (none : Option Key).toList,
      k.curve = first.curve := by
    intro k member
    rw [Option.toList_none, List.append_nil] at member
    exact of_decide_eq_true (List.mem_filter.mp member).2
  exact Jwe.fits_encrypt payload alg enc e (by simp [onCurve]) sameCurve

/-! A sender whose first key serves for nothing, and a recipient with keys on two curves. -/

def planarKey : Key where
  id := "did:example:bob#2"
  curve := .p256
  jwk := {
    kty := Curve.p256.keyType
    crv := Curve.p256.name
    x := Base64Url.encode (Bytes.ofNat 32 Weierstrass.p256.baseX)
    y := some (Base64Url.encode (Bytes.ofNat 32 Weierstrass.p256.baseY))
    d := none }

def spareKey : Key := .uniform "did:example:bob#3" 5

def versedDocument : Document :=
  { aliceDocument with keyAgreement := ["did:example:alice#2", "did:example:alice#1"] }

def versed : Directory := .ofDocuments [
  versedDocument,
  { bobDocument with
    keyAgreement := ["did:example:bob#2", "did:example:bob#1", "did:example:bob#3"]
    methods := [bobKey, planarKey, spareKey].map (·.method "did:example:bob") }]

def versedAlice : Agent := ⟨versed, alice.keyring⟩

theorem ofMethod_planarKey (controller : String) :
    Key.ofMethod (planarKey.method controller) = .ok planarKey := by
  refine Key.ofMethod_method (Key.ofJwk_eq_ok_iff.mpr ⟨.p256, rfl, rfl, ?_, rfl⟩) controller
  have read (name : String) (n : Nat) : Key.coordinate planarKey.id name
      (Base64Url.encode (Bytes.ofNat 32 n)) = .ok (Bytes.ofNat 32 n) :=
    Key.coordinate_eq_ok_iff.mpr ⟨decodeBase64Url_encode _, Bytes.length_ofNat _ _⟩
  exact Key.checkCoordinates_eq_ok_iff.mpr ⟨⟨_, read "x" _⟩, fun _ => ⟨_, read "y" _⟩, nofun⟩

theorem candidates_versed :
    versedAlice.Candidates "did:example:bob" [planarKey, bobKey.toPublic, spareKey.toPublic] := by
  refine .all (by decide) rfl (List.cons_ne_nil _ _) (.cons ?_ (.cons ?_ (.cons ?_ .nil)))
  · exact bind_eq_ok_iff.mpr ⟨_, rfl, ofMethod_planarKey _⟩
  · exact bind_eq_ok_iff.mpr ⟨_, rfl, Key.ofMethod_uniform _ _ _⟩
  · exact bind_eq_ok_iff.mpr ⟨_, rfl, Key.ofMethod_uniform _ _ _⟩

/-- The keys that a sender takes. Authenticated, they are its first key, in the order of its
document, whose curve some key of the recipient is on, and all of these; the keys are said to be
incompatible just if there is none. Anonymously, they are the recipient's keys on the curve of the
first. Either way they go together. -/
theorem senderKeys_match (a : Agent) (sender recipient : String) :
    (∀ key keys, a.authcryptKeys sender recipient = .ok (key, keys) ↔
      ∃ candidates before kid after, a.Candidates recipient candidates ∧
        a.SenderKids sender (before ++ kid :: after) ∧
        (∀ k ∈ before, a.Unfit candidates k) ∧ a.keyring.key kid = .ok key ∧ key.id = kid ∧
        keys = candidates.filter (·.curve = key.curve) ∧ keys ≠ []) ∧
    (∀ cause, a.authcryptKeys sender recipient = .error (.incompatible cause) ↔
      cause = .noCommonCurve sender recipient ∧ ∃ candidates kids,
        a.Candidates recipient candidates ∧ a.SenderKids sender kids ∧
        ∀ kid ∈ kids, a.Unfit candidates kid) ∧
    (∀ keys, a.anoncryptKeys recipient = .ok keys ↔
      ∃ first rest, a.Candidates recipient (first :: rest) ∧
        keys = first :: rest.filter (·.curve = first.curve)) ∧
    (∀ key keys, a.authcryptKeys sender recipient = .ok (key, keys) → ∀ payload alg enc e error,
      Jwe.encrypt payload alg enc (some key) keys e = .error error → error.isMisfit = false) ∧
    (∀ keys, a.anoncryptKeys recipient = .ok keys → ∀ payload alg enc e error,
      Jwe.encrypt payload alg enc none keys e = .error error → error.isMisfit = false) := by
  refine ⟨fun key keys => ?_, fun cause => authcryptKeys_eq_incompatible_iff, fun keys => ?_,
    fun key keys => fits_encrypt_authcryptKeys, fun keys => fits_encrypt_anoncryptKeys⟩
  · rw [authcryptKeys_eq_ok_iff]
    constructor
    · rintro ⟨candidates, kids, listed, tried, searched⟩
      obtain ⟨before, kid, after, rfl, unfit, own, filtered, some_⟩ :=
        firstCompatible_eq_some_iff.mp searched
      exact ⟨candidates, before, kid, after, listed, tried, unfit, own, Keyring.id_of_key own,
        filtered, some_⟩
    · rintro ⟨candidates, before, kid, after, listed, tried, unfit, own, -, filtered, some_⟩
      exact ⟨candidates, _, listed, tried, firstCompatible_eq_some_iff.mpr
        ⟨before, kid, after, rfl, unfit, own, filtered, some_⟩⟩
  · simp [anoncryptKeys_eq_ok_iff, onCurve]

theorem senderKeys_match_versed :
    versedAlice.authcryptKeys "did:example:alice" "did:example:bob" =
        .ok (aliceKey, [bobKey.toPublic, spareKey.toPublic]) ∧
      versedAlice.authcryptKeys "did:example:alice#2" "did:example:bob" =
        .error (.incompatible (.noCommonCurve "did:example:alice#2" "did:example:bob")) ∧
      versedAlice.anoncryptKeys "did:example:bob" = .ok [planarKey] ∧
      ∀ payload alg enc e error,
        Jwe.encrypt payload alg enc none [planarKey] e = .error error →
          error.isMisfit = false := by
  have unfit : versedAlice.Unfit [planarKey, bobKey.toPublic, spareKey.toPublic]
      "did:example:alice#2" := ⟨aliceSigner, key_aliceSigner, by decide⟩
  have tried : versedAlice.SenderKids "did:example:alice"
      (["did:example:alice#2"] ++ "did:example:alice#1" :: []) :=
    @SenderKids.held _ _ versedDocument (by decide) rfl (List.cons_ne_nil _ _)
  have named : versedAlice.SenderKids "did:example:alice#2" ["did:example:alice#2"] :=
    .named (by decide) rfl List.mem_cons_self
  obtain ⟨authcrypts, -, anoncrypts, -, goTogether⟩ :=
    senderKeys_match versedAlice "did:example:alice" "did:example:bob"
  obtain ⟨-, refuses, -⟩ := senderKeys_match versedAlice "did:example:alice#2" "did:example:bob"
  have anonymous : versedAlice.anoncryptKeys "did:example:bob" = .ok [planarKey] :=
    (anoncrypts _).mpr ⟨planarKey, _, candidates_versed, rfl⟩
  refine ⟨(authcrypts _ _).mpr ⟨_, _, _, _, candidates_versed, tried,
    List.forall_mem_singleton.mpr unfit, key_aliceKey, rfl, rfl, List.cons_ne_nil _ _⟩, ?_,
    anonymous, goTogether _ anonymous⟩
  exact (refuses _).mpr ⟨rfl, _, _, candidates_versed, named, List.forall_mem_singleton.mpr unfit⟩

end Agent

end DidMessaging
