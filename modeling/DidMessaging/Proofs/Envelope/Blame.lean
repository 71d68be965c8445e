import DidMessaging.Proofs.Envelope.Encryption
import DidMessaging.Proofs.Key.Disagreement
import DidMessaging.Proofs.Key.Pair

namespace DidMessaging

/-! Failures. -/

/-- An operation that fails only through what was received. -/
def Result.Blames (x : Result α) : Prop := ∀ e, x = .error e → e.isMalformed = true

namespace Result

/-- What is not blamed on the message comes after a step that blames nothing else. -/
theorem Blames.later {x : Result α} {next : α → Result β} {e : Error} (blames : Blames x)
    (fails : (x >>= next) = .error e) (other : e.isMalformed = false) :
    ∃ a, x = .ok a ∧ next a = .error e := by
  rcases bind_eq_error_iff.mp fails with first | later
  · simp [blames e first] at other
  · exact later

end Result

open Result

theorem blames_decodeBase64Url (encoded : String) : Blames (decodeBase64Url encoded) := by
  intro e fails
  unfold decodeBase64Url at fails
  split at fails
  · contradiction
  · obtain rfl := Except.error.inj fails
    rfl

theorem KeyWrap.blames_unwrap {wrappingKey : Bytes} (sized : wrappingKey.length = 32)
    (wrapped : Bytes) : Blames (unwrap wrappingKey wrapped) := by
  intro e fails
  unfold unwrap at fails
  simp only [sized, ne_eq, not_true_eq_false, if_false] at fails
  split at fails
  · obtain rfl := Except.error.inj fails
    rfl
  · split at fails
    · contradiction
    · obtain rfl := Except.error.inj fails
      rfl

theorem StreamCipher.blames_decrypt (c : StreamCipher) (content : Bytes) :
    Blames (c.decrypt content) := by
  intro e fails
  unfold decrypt at fails
  split at fails
  · obtain rfl := Except.error.inj fails
    rfl
  · simp only [List.splitAt_eq] at fails
    split at fails
    · contradiction
    · obtain rfl := Except.error.inj fails
      rfl

namespace ContentAlgorithm

theorem blames_decryptSized (a : ContentAlgorithm) (iv key content associated : Bytes) :
    Blames (a.decryptSized iv key content associated) := by
  intro e fails
  cases a with
  | a256cbcHs512 =>
      rw [decryptSized, CbcHmac.decrypt] at fails
      split at fails
      · obtain rfl := Except.error.inj fails
        rfl
      · simp only [List.splitAt_eq] at fails
        split at fails
        · obtain rfl := Except.error.inj fails
          rfl
        · split at fails
          · contradiction
          · obtain rfl := Except.error.inj fails
            rfl
  | xc20p => exact StreamCipher.blames_decrypt _ content e fails
  | a256gcm => exact StreamCipher.blames_decrypt _ content e fails

/-- Only the size of the content key is not blamed on the message. -/
theorem decrypt_eq_error_sound {a : ContentAlgorithm} {iv key content associated : Bytes}
    (fails : a.decrypt iv key content associated = .error e) (other : e.isMalformed = false) :
    e = .crypto (.contentKeySize a key.length) ∧ iv.length = a.ivSize ∧ key.length ≠ a.keySize := by
  rcases bind_eq_error_iff.mp fails with sizes | ⟨_, -, rest⟩
  · unfold checkSizes at sizes
    split at sizes
    · obtain rfl := Except.error.inj sizes
      contradiction
    · next sizedIv =>
        split at sizes
        · next wrong =>
            obtain rfl := Except.error.inj sizes
            exact ⟨rfl, not_not.mp sizedIv, wrong⟩
        · contradiction
  · simp [blames_decryptSized _ _ _ _ _ e rest] at other

theorem decrypt_of_keySize {a : ContentAlgorithm} {iv key : Bytes} (sized : iv.length = a.ivSize)
    (wrong : key.length ≠ a.keySize) (content associated : Bytes) :
    a.decrypt iv key content associated = .error (.crypto (.contentKeySize a key.length)) := by
  refine bind_eq_error_iff.mpr (.inl ?_)
  simp [checkSizes, sized, wrong]

end ContentAlgorithm

namespace Jwe.Received

theorem blames_entry (r : Received) (kid : String) : Blames (r.entry kid) := by
  intro e fails
  unfold entry at fails
  split at fails
  · contradiction
  · obtain rfl := Except.error.inj fails
    rfl

theorem blames_contentAlgorithm (r : Received) : Blames r.contentAlgorithm := by
  intro e fails
  unfold contentAlgorithm at fails
  split at fails
  · contradiction
  · obtain rfl := Except.error.inj fails
    rfl

theorem blames_ephemeral (r : Received) : Blames r.ephemeral := by
  intro e fails
  unfold ephemeral at fails
  split at fails
  · contradiction
  · obtain rfl := Except.error.inj fails
    rfl

theorem checkCoordinates_of_ephemeral {r : Received} {epk : Key} (found : r.ephemeral = .ok epk) :
    epk.checkCoordinates = .ok () := by
  unfold ephemeral at found
  split at found
  · next key made =>
      obtain rfl := Except.ok.inj found
      obtain ⟨curve, -, -, checked, rfl⟩ := Key.ofJwk_eq_ok_iff.mp made
      exact checked
  · contradiction

/-- The parts of an envelope that are read before there is a secret. -/
structure Begins (r : Received) (kid : String) (entry : Recipient) (enc : ContentAlgorithm)
    (epk : Key) (tag : Bytes) : Prop where
  entry : r.entry kid = .ok entry
  algorithm : r.contentAlgorithm = .ok enc
  ephemeral : r.ephemeral = .ok epk
  tag : decodeBase64Url r.jwe.tag = .ok tag

/-- How the sender of an envelope makes its decryption fail through the cryptography: with a fresh
key that is no point to agree on, with a name that is too long to derive a key for, or with a content
key of the wrong size, which it wraps duly. -/
inductive Lapse (r : Received) (recipient : Key) : CryptoFault → Prop
  | noPoint {own : Recipient} {enc : ContentAlgorithm} {epk : Key} {tag : Bytes}
      {fault : CryptoFault} (begins : r.Begins recipient.id own enc epk tag)
      (noPoint : recipient.NoPoint epk fault) : Lapse r recipient fault
  | derivationSize {own : Recipient} {enc : ContentAlgorithm} {epk : Key} {tag z : Bytes}
      (begins : r.Begins recipient.id own enc epk tag) (shared : recipient.agree epk = .ok z)
      (long : ¬KeyDerivation.Arguments.Sized ⟨z, r.header.alg, r.apu, some r.apv, none⟩) :
      Lapse r recipient .derivationSize
  | contentKeySize {own : Recipient} {enc : ContentAlgorithm} {epk : Key}
      {tag z wrappingKey octets contentKey ciphertext vector : Bytes}
      (begins : r.Begins recipient.id own enc epk tag) (shared : recipient.agree epk = .ok z)
      (derived : KeyDerivation.wrappingKey z r.header.alg r.apu (some r.apv) none =
        .ok wrappingKey)
      (wrapped : decodeBase64Url own.encryptedKey = .ok octets)
      (unwraps : KeyWrap.unwrap wrappingKey octets = .ok contentKey)
      (content : decodeBase64Url r.jwe.ciphertext = .ok ciphertext)
      (initial : decodeBase64Url r.jwe.iv = .ok vector) (sized : vector.length = enc.ivSize)
      (wrong : contentKey.length ≠ enc.keySize) :
      Lapse r recipient (.contentKeySize enc contentKey.length)

variable {r : Received} {recipient : Key} {fault : CryptoFault}

theorem secret_none_eq_ok_iff {epk : Key} :
    secret recipient epk none = .ok z ↔ recipient.agree epk = .ok z := by
  have whole : secret recipient epk none = sharedByRecipient recipient epk := by
    rw [secret]
    cases sharedByRecipient recipient epk <;> rfl
  rw [whole, sharedByRecipient]
  split
  · next fails => simp [fails]
  · exact Iff.rfl

/-- Different curves are the message's fault. -/
theorem secret_none_eq_error_sound {epk : Key} (usable : recipient.Usable)
    (checked : epk.checkCoordinates = .ok ()) (fails : secret recipient epk none = .error e)
    (other : e.isMalformed = false) : ∃ fault, e = .crypto fault ∧ recipient.NoPoint epk fault := by
  rcases bind_eq_error_iff.mp fails with fails | ⟨z, -, rest⟩
  · unfold sharedByRecipient at fails
    split at fails
    · obtain rfl := Except.error.inj fails
      contradiction
    · next notIncompatible =>
        rcases Key.agree_eq_error_sound usable checked fails with ⟨cause, rfl⟩ | found
        · exact absurd fails (notIncompatible cause)
        · exact found
  · contradiction

theorem lapse_of_decrypt (usable : recipient.Usable) (fails : r.decrypt none recipient = .error e)
    (other : e.isMalformed = false) : ∃ fault, e = .crypto fault ∧ r.Lapse recipient fault := by
  unfold decrypt at fails
  obtain ⟨entry, entryFound, fails⟩ := (r.blames_entry recipient.id).later fails other
  obtain ⟨enc, algorithm, fails⟩ := r.blames_contentAlgorithm.later fails other
  obtain ⟨epk, ephemeral, fails⟩ := r.blames_ephemeral.later fails other
  obtain ⟨tag, tagDecoded, fails⟩ := (blames_decodeBase64Url r.jwe.tag).later fails other
  have begins : r.Begins recipient.id entry enc epk tag :=
    ⟨entryFound, algorithm, ephemeral, tagDecoded⟩
  rcases bind_eq_error_iff.mp fails with noSecret | ⟨z, shared, fails⟩
  · obtain ⟨fault, rfl, noPoint⟩ := secret_none_eq_error_sound usable
      (checkCoordinates_of_ephemeral ephemeral) noSecret other
    exact ⟨fault, rfl, .noPoint begins noPoint⟩
  have agrees : recipient.agree epk = .ok z := secret_none_eq_ok_iff.mp shared
  rcases bind_eq_error_iff.mp fails with noKey | ⟨wrappingKey, derived, fails⟩
  · obtain ⟨long, rfl⟩ := KeyDerivation.wrappingKey_eq_error_iff.mp noKey
    exact ⟨_, rfl, .derivationSize begins agrees long⟩
  obtain ⟨octets, wrapped, fails⟩ := (blames_decodeBase64Url entry.encryptedKey).later fails other
  obtain ⟨contentKey, unwraps, fails⟩ :=
    (KeyWrap.blames_unwrap (KeyDerivation.length_wrappingKey derived) octets).later fails other
  obtain ⟨ciphertext, content, fails⟩ :=
    (blames_decodeBase64Url r.jwe.ciphertext).later fails other
  obtain ⟨vector, initial, fails⟩ := (blames_decodeBase64Url r.jwe.iv).later fails other
  obtain ⟨rfl, sized, wrong⟩ := ContentAlgorithm.decrypt_eq_error_sound fails other
  exact ⟨_, rfl, .contentKeySize begins agrees derived wrapped unwraps content initial sized wrong⟩

theorem decrypt_of_lapse (usable : recipient.Usable) (lapse : r.Lapse recipient fault) :
    r.decrypt none recipient = .error (.crypto fault) := by
  unfold decrypt
  cases lapse with
  | @noPoint _ _ epk _ _ begins noPoint =>
      have fails : secret recipient epk none = .error (.crypto fault) := by
        refine bind_eq_error_iff.mpr (.inl ?_)
        rw [sharedByRecipient, Key.agree_of_noPoint usable noPoint]
      exact bind_error_of_ok begins.entry (bind_error_of_ok begins.algorithm
        (bind_error_of_ok begins.ephemeral (bind_error_of_ok begins.tag
        (bind_eq_error_iff.mpr (.inl fails)))))
  | derivationSize begins shared long =>
      have noKey := KeyDerivation.wrappingKey_eq_error_iff.mpr ⟨long, rfl⟩
      exact bind_error_of_ok begins.entry (bind_error_of_ok begins.algorithm
        (bind_error_of_ok begins.ephemeral (bind_error_of_ok begins.tag
        (bind_error_of_ok (secret_none_eq_ok_iff.mpr shared)
        (bind_eq_error_iff.mpr (.inl noKey))))))
  | contentKeySize begins shared derived wrapped unwraps content initial sized wrong =>
      exact bind_error_of_ok begins.entry (bind_error_of_ok begins.algorithm
        (bind_error_of_ok begins.ephemeral (bind_error_of_ok begins.tag
        (bind_error_of_ok (secret_none_eq_ok_iff.mpr shared) (bind_error_of_ok derived
        (bind_error_of_ok wrapped (bind_error_of_ok unwraps (bind_error_of_ok content
        (bind_error_of_ok initial (ContentAlgorithm.decrypt_of_keySize sized wrong _ _))))))))))

/-- Whatever an envelope says, its decryption with a private key and without a sender fails only
with the message to blame, or with the cryptography, and the latter exactly in the four lapses. -/
theorem decrypt_blames (r : Received) (usable : recipient.Usable) :
    (∀ e, r.decrypt none recipient = .error e → e.isMalformed = true ∨ ∃ fault, e = .crypto fault) ∧
      ∀ fault, r.decrypt none recipient = .error (.crypto fault) ↔ r.Lapse recipient fault := by
  constructor
  · intro e fails
    cases malformed : e.isMalformed with
    | true => exact .inl rfl
    | false =>
        obtain ⟨fault, rfl, -⟩ := lapse_of_decrypt usable fails malformed
        exact .inr ⟨fault, rfl⟩
  · intro fault
    constructor
    · intro fails
      obtain ⟨found, same, lapse⟩ := lapse_of_decrypt usable fails rfl
      exact Error.crypto.inj same ▸ lapse
    · exact decrypt_of_lapse usable

/-! An envelope whose fresh key is the point zero, which anyone can make without any key. -/

def ownKey : Key :=
  .pair .x25519 "did:example:bob#1" (X25519.publicKey (List.replicate 32 3)) (List.replicate 32 3)

def zeroPoint : Fresh where
  ephemeral := .pair .x25519 "" (Bytes.zeros 32) (Bytes.zeros 32)
  contentKey := []
  iv := []

def zeroHeader : Header :=
  headerFor AnonAlgorithm.agreement .xc20p none [ownKey] zeroPoint.ephemeral

def zeroEnvelope : Jwe where
  header := Base64Url.encode (Utf8.encode zeroHeader.json.text)
  recipients := [⟨"did:example:bob#1", ""⟩]
  iv := ""
  ciphertext := ""
  tag := ""

theorem usable_ownKey : ownKey.Usable where
  serves := by decide
  secret := ⟨_, Key.d_pair List.length_replicate, by simp [ownKey, Key.pair, Curve.weierstrass?]⟩

theorem lapse_zeroEnvelope :
    (zeroEnvelope.receive zeroPoint AnonAlgorithm.agreement .xc20p none [ownKey]).Lapse ownKey
      (.nonContributory "epk") := by
  have made : Key.ofJwk "" zeroPoint.ephemeral.jwk = .ok zeroPoint.ephemeral :=
    Key.ofJwk_pair rfl List.length_replicate List.length_replicate "" ""
  have zero : X25519.agree (List.replicate 32 3) (Bytes.zeros 32) = Bytes.zeros 32 := by
    decide +kernel
  exact .noPoint ⟨rfl, rfl, ephemeral_receive made, rfl⟩
    (.lowOrder rfl rfl (Key.d_pair List.length_replicate)
      (Key.coordinate_eq_ok_iff.mpr ⟨decodeBase64Url_encode _, List.length_replicate⟩) zero)

theorem decrypt_blames_zeroEnvelope :
    ∃ r, parse zeroEnvelope.text = .ok r ∧ ownKey.Usable ∧
      r.decrypt none ownKey = .error (.crypto (.nonContributory "epk")) := by
  have received := parse_of_header (h := zeroHeader) (j := zeroEnvelope) rfl (List.cons_ne_nil _ _)
    rfl (decodeBase64Url_encode _)
  exact ⟨_, received, usable_ownKey,
    ((decrypt_blames _ usable_ownKey).2 _).mpr lapse_zeroEnvelope⟩

end Jwe.Received

end DidMessaging
