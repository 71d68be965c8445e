import DidMessaging.Proofs.Agent.Encrypted

namespace DidMessaging.Agent

open Result

variable {a : Agent} {signer kid : String} {key : Key}

/-- The id of the key that signs: the one that a DID URL names, if the document publishes it, or the
first held one of those that the document of a DID lists for signatures. -/
inductive SigningKid (a : Agent) (signer : String) : String → Prop
  | named {doc : Document} (isUrl : Did.isUrl signer = true)
      (known : a.directory.document (Did.ofUrl signer) = .ok doc)
      (published : ∃ m ∈ doc.methods, m.id = signer) : SigningKid a signer signer
  | first {doc : Document} {before : List String} {kid : String} {after : List String}
      (bare : Did.isUrl signer = false)
      (known : a.directory.document (Did.ofUrl signer) = .ok doc)
      (listed : doc.authentication = before ++ kid :: after)
      (unheld : ∀ k ∈ before, a.keyring.holds k = false) (held : a.keyring.holds kid = true) :
      SigningKid a signer kid

theorem signingKid_eq_ok_iff : a.signingKid signer = .ok kid ↔ a.SigningKid signer kid := by
  unfold signingKid Keyring.held
  simp only [List.head?_filter]
  constructor
  · intro found
    obtain ⟨doc, known, found⟩ := bind_eq_ok_iff.mp found
    split at found
    · next isUrl =>
        obtain ⟨method, methodFound, found⟩ := bind_eq_ok_iff.mp found
        obtain rfl := pure_eq_ok_iff.mp found
        exact .named isUrl known (Document.exists_method_iff.mp ⟨method, methodFound⟩)
    · next notUrl =>
        obtain ⟨-, found⟩ := ite_throw_eq_ok_iff.mp found
        cases first : doc.authentication.find? a.keyring.holds with
        | none => simp [first] at found
        | some kid' =>
            simp only [first] at found
            obtain rfl := pure_eq_ok_iff.mp found
            obtain ⟨held, before, after, listed, unheld⟩ :=
              List.find?_eq_some_iff_append.mp first
            exact .first (by simpa using notUrl) known listed (by simpa using unheld) held
  · intro signs
    cases signs with
    | named isUrl known published =>
        obtain ⟨method, methodFound⟩ := Document.exists_method_iff.mpr published
        refine bind_eq_ok_iff.mpr ⟨_, known, ?_⟩
        rw [if_pos isUrl]
        exact bind_eq_ok_iff.mpr ⟨method, methodFound, rfl⟩
    | @first doc before kid after bare known listed unheld held =>
        have first : doc.authentication.find? a.keyring.holds = some kid :=
          List.find?_eq_some_iff_append.mpr ⟨held, before, after, listed, by simpa using unheld⟩
        refine bind_eq_ok_iff.mpr ⟨doc, known, ?_⟩
        rw [if_neg (by simp [bare]), first]
        exact ite_throw_eq_ok_iff.mpr ⟨by simp [listed], rfl⟩

theorem signingKey_eq_ok_iff :
    a.signingKey signer = .ok key ↔ a.SigningKid signer key.id ∧ a.keyring.key key.id = .ok key := by
  unfold signingKey
  rw [bind_eq_ok_iff]
  constructor
  · rintro ⟨kid, found, own⟩
    obtain rfl := Keyring.id_of_key own
    exact ⟨signingKid_eq_ok_iff.mp found, own⟩
  · rintro ⟨signs, own⟩
    exact ⟨key.id, signingKid_eq_ok_iff.mpr signs, own⟩

/-! Keys that are not published. -/

theorem signingKey_eq_error {doc : Document} (isUrl : Did.isUrl kid = true)
    (known : a.directory.document (Did.ofUrl kid) = .ok doc)
    (unpublished : ∀ m ∈ doc.methods, m.id ≠ kid) :
    a.signingKey kid = .error (.didUrlNotFound kid) := by
  have unfound : a.signingKid kid = .error (.didUrlNotFound kid) := by
    refine bind_error_of_ok known ?_
    rw [if_pos isUrl, Document.method_eq_error unpublished]
    rfl
  rw [signingKey, unfound]
  rfl

theorem verificationKey_eq_error {doc : Document} (isUrl : Did.isUrl kid = true)
    (known : a.directory.document (Did.ofUrl kid) = .ok doc)
    (unpublished : ∀ m ∈ doc.methods, m.id ≠ kid) :
    a.verificationKey kid = .error (.didUrlNotFound kid) := by
  unfold verificationKey
  rw [isUrl]
  refine bind_error_of_ok known ?_
  rw [Document.method_eq_error unpublished]
  rfl

/-! A signer whose document lists a key that it does not publish. -/

def unlisted : Directory :=
  .ofDocuments [{ aliceDocument with methods := [aliceKey.method "did:example:alice"] }]

theorem signingKey_unlisted :
    signingKey ⟨unlisted, alice.keyring⟩ "did:example:alice" = .ok aliceSigner :=
  bind_eq_ok_iff.mpr ⟨"did:example:alice#2", rfl, key_aliceSigner⟩

/-- The key of a DID URL is published under it. The key of a DID is the first held one of those that
the document lists for signatures. It is published if the document publishes what it lists, and
then it is also the key of its own id. Otherwise nobody finds it by its id, neither the signer nor
whoever is to verify what was signed. -/
theorem signingKey_identified (found : a.signingKey signer = .ok key) :
    ∃ doc, a.directory.document (Did.ofUrl signer) = .ok doc ∧
      (Did.isUrl signer = true → key.id = signer ∧ ∃ m ∈ doc.methods, m.id = key.id) ∧
      (Did.isUrl signer = false →
        (∃ before after, doc.authentication = before ++ key.id :: after ∧
          (∀ kid ∈ before, a.keyring.holds kid = false) ∧ a.keyring.holds key.id = true) ∧
        ((∀ kid ∈ doc.authentication, ∃ m ∈ doc.methods, m.id = kid) →
          ∃ m ∈ doc.methods, m.id = key.id) ∧
        (Did.isUrl key.id = true → Did.ofUrl key.id = Did.ofUrl signer →
          ((∃ m ∈ doc.methods, m.id = key.id) → a.signingKey key.id = .ok key) ∧
          ((∀ m ∈ doc.methods, m.id ≠ key.id) →
            a.signingKey key.id = .error (.didUrlNotFound key.id) ∧
            ∀ b : Agent, b.directory = a.directory →
              b.verificationKey key.id = .error (.didUrlNotFound key.id)))) := by
  obtain ⟨signs, own⟩ := signingKey_eq_ok_iff.mp found
  generalize id : key.id = kid at signs
  cases signs with
  | @named doc isUrl known published =>
      exact ⟨doc, known, fun _ => ⟨rfl, published⟩, by simp [isUrl]⟩
  | @first doc before kid after bare known listed unheld held =>
      subst id
      refine ⟨doc, known, by simp [bare], fun _ => ⟨⟨before, after, listed, unheld, held⟩, ?_, ?_⟩⟩
      · intro publishes
        exact publishes key.id (listed ▸ List.mem_append_right before List.mem_cons_self)
      -- The id as a DID URL is looked for in the same document, but among its keys.
      · intro isUrl sameDid
        rw [← sameDid] at known
        refine ⟨fun published => signingKey_eq_ok_iff.mpr ⟨.named isUrl known published, own⟩,
          fun unpublished => ⟨signingKey_eq_error isUrl known unpublished, fun b same => ?_⟩⟩
        exact verificationKey_eq_error isUrl (same ▸ known) unpublished

theorem signingKey_identified_unlisted :
    signingKey ⟨unlisted, alice.keyring⟩ "did:example:alice" = .ok aliceSigner ∧
      signingKey ⟨unlisted, alice.keyring⟩ "did:example:alice#2" =
        .error (.didUrlNotFound "did:example:alice#2") ∧
      ∀ keyring, verificationKey ⟨unlisted, keyring⟩ "did:example:alice#2" =
        .error (.didUrlNotFound "did:example:alice#2") := by
  obtain ⟨doc, known, -, bare⟩ := signingKey_identified signingKey_unlisted
  obtain rfl := Except.ok.inj known
  obtain ⟨-, -, ofId⟩ := bare (by decide)
  obtain ⟨-, unpublished⟩ := ofId (by decide) (by decide)
  obtain ⟨refused, unverified⟩ := unpublished (by decide)
  exact ⟨signingKey_unlisted, refused, fun keyring => unverified _ rfl⟩

end DidMessaging.Agent
