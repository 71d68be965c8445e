import DidMessaging.Proofs.Agent.Keys

namespace DidMessaging

open Result

/-- The document has a key under an id. -/
def Document.Publishes (doc : Document) (kid : String) (key : Key) : Prop :=
  (doc.method kid >>= Key.ofMethod) = .ok key

theorem Document.Publishes.id {doc : Document} {kid : String} {key : Key}
    (publishes : doc.Publishes kid key) : key.id = kid := by
  obtain ⟨method, found, ofMethod⟩ := bind_eq_ok_iff.mp publishes
  rw [Key.id_of_ofMethod ofMethod,
    (Document.method?_sound (Document.method_eq_ok_iff.mp found)).2]

namespace Agent

variable {a : Agent} {sender recipient : String} {kids : List String} {key : Key}
  {keys candidates : List Key}

/-! Of the recipient. -/

/-- The keys of a recipient to choose from: the one that a DID URL names, or all that the document
of a DID lists for encryption, in its order. -/
inductive Candidates (a : Agent) (recipient : String) : List Key → Prop
  | named {doc : Document} {key : Key} (isUrl : Did.isUrl recipient = true)
      (known : a.directory.document (Did.ofUrl recipient) = .ok doc)
      (listed : recipient ∈ doc.keyAgreement) (publishes : doc.Publishes recipient key) :
      Candidates a recipient [key]
  | all {doc : Document} {keys : List Key} (bare : Did.isUrl recipient = false)
      (known : a.directory.document (Did.ofUrl recipient) = .ok doc)
      (some_ : doc.keyAgreement ≠ [])
      (publish : List.Forall₂ doc.Publishes doc.keyAgreement keys) :
      Candidates a recipient keys

theorem Candidates.ne_nil (candidates : a.Candidates recipient keys) : keys ≠ [] := by
  cases candidates with
  | named isUrl known listed publishes => exact List.cons_ne_nil _ _
  | all bare known some_ publish =>
      rintro rfl
      exact some_ (List.forall₂_nil_right_iff.mp publish)

theorem recipientKeys_eq_ok_iff :
    a.recipientKeys recipient = .ok keys ↔ a.Candidates recipient keys := by
  unfold recipientKeys
  constructor
  · intro found
    obtain ⟨doc, known, found⟩ := bind_eq_ok_iff.mp found
    split at found
    · next isUrl =>
        obtain ⟨listed, found⟩ := ite_throw_eq_ok_iff.mp found
        obtain ⟨method, methodFound, found⟩ := bind_eq_ok_iff.mp found
        obtain ⟨key, ofMethod, found⟩ := bind_eq_ok_iff.mp found
        obtain rfl := pure_eq_ok_iff.mp found
        exact .named isUrl known (by simpa using listed)
          (bind_eq_ok_iff.mpr ⟨method, methodFound, ofMethod⟩)
    · next notUrl =>
        obtain ⟨some_, found⟩ := ite_throw_eq_ok_iff.mp found
        exact .all (by simpa using notUrl) known (by simpa using some_)
          (mapM_bind_mapM_eq_ok_iff.mp found)
  · intro candidates
    cases candidates with
    | named isUrl known listed publishes =>
        obtain ⟨method, methodFound, ofMethod⟩ := bind_eq_ok_iff.mp publishes
        refine bind_eq_ok_iff.mpr ⟨_, known, ?_⟩
        rw [if_pos isUrl]
        exact ite_throw_eq_ok_iff.mpr ⟨by simpa using listed, bind_eq_ok_iff.mpr
          ⟨method, methodFound, bind_eq_ok_iff.mpr ⟨_, ofMethod, rfl⟩⟩⟩
    | all bare known some_ publish =>
        refine bind_eq_ok_iff.mpr ⟨_, known, ?_⟩
        rw [if_neg (by simp [bare])]
        exact ite_throw_eq_ok_iff.mpr ⟨by simpa using some_, mapM_bind_mapM_eq_ok_iff.mpr publish⟩

/-! Of the sender. -/

/-- The ids of the keys that a sender tries: the one that a DID URL names, or those of the keys
that the document of a DID lists for encryption and that are held, in its order. -/
inductive SenderKids (a : Agent) (sender : String) : List String → Prop
  | named {doc : Document} (isUrl : Did.isUrl sender = true)
      (known : a.directory.document (Did.ofUrl sender) = .ok doc)
      (listed : sender ∈ doc.keyAgreement) : SenderKids a sender [sender]
  | held {doc : Document} (bare : Did.isUrl sender = false)
      (known : a.directory.document (Did.ofUrl sender) = .ok doc)
      (some_ : doc.keyAgreement.filter a.keyring.holds ≠ []) :
      SenderKids a sender (doc.keyAgreement.filter a.keyring.holds)

theorem senderKids_eq_ok_iff :
    (∃ doc, a.directory.document (Did.ofUrl sender) = .ok doc ∧ a.senderKids doc sender = .ok kids) ↔
      a.SenderKids sender kids := by
  unfold senderKids Keyring.held
  constructor
  · rintro ⟨doc, known, found⟩
    split at found
    · next isUrl =>
        split at found
        · next listed =>
            obtain rfl := Except.ok.inj found
            exact .named isUrl known (by simpa using listed)
        · contradiction
    · next notUrl =>
        simp only at found
        split at found
        · contradiction
        · next some_ =>
            obtain rfl := Except.ok.inj found
            exact .held (by simpa using notUrl) known (by simpa using some_)
  · intro tried
    cases tried with
    | @named doc isUrl known listed =>
        refine ⟨doc, known, ?_⟩
        rw [if_pos isUrl, if_pos (by simpa using listed)]
    | @held doc bare known some_ =>
        refine ⟨doc, known, ?_⟩
        rw [if_neg (by simp [bare])]
        exact if_neg (by simpa using some_)

/-- The agent holds a key on a curve that no candidate is on. -/
def Unfit (a : Agent) (candidates : List Key) (kid : String) : Prop :=
  ∃ key, a.keyring.key kid = .ok key ∧ ∀ candidate ∈ candidates, candidate.curve ≠ key.curve

theorem onCurve_eq_nil_iff : onCurve curve keys = [] ↔ ∀ key ∈ keys, key.curve ≠ curve := by
  simp [onCurve, List.filter_eq_nil_iff]

theorem firstCompatible_cons_of_unfit {kid : String} (unfit : a.Unfit candidates kid) :
    a.firstCompatible candidates (kid :: kids) = a.firstCompatible candidates kids := by
  obtain ⟨key, own, none_⟩ := unfit
  rw [firstCompatible, own]
  dsimp only [bind, Except.bind]
  rw [onCurve_eq_nil_iff.mpr none_]
  rfl

theorem firstCompatible_eq_none_iff :
    a.firstCompatible candidates kids = .ok none ↔ ∀ kid ∈ kids, a.Unfit candidates kid := by
  induction kids with
  | nil => simp [firstCompatible]
  | cons kid kids ih =>
      constructor
      · intro found
        rw [firstCompatible] at found
        obtain ⟨key, own, found⟩ := bind_eq_ok_iff.mp found
        dsimp only at found
        split at found
        · next none_ =>
            have unfit : a.Unfit candidates kid :=
              ⟨key, own, onCurve_eq_nil_iff.mp (by simpa using none_)⟩
            exact List.forall_mem_cons.mpr ⟨unfit, ih.mp found⟩
        · simp at found
      · intro unfit
        obtain ⟨first, rest⟩ := List.forall_mem_cons.mp unfit
        rw [firstCompatible_cons_of_unfit first, ih.mpr rest]

theorem firstCompatible_eq_some_iff :
    a.firstCompatible candidates kids = .ok (some (key, keys)) ↔
      ∃ before kid after, kids = before ++ kid :: after ∧
        (∀ k ∈ before, a.Unfit candidates k) ∧ a.keyring.key kid = .ok key ∧
        keys = onCurve key.curve candidates ∧ keys ≠ [] := by
  constructor
  · intro found
    -- Along the ids in the order in which they are tried: an unfit one is passed over.
    induction kids with
    | nil => simp [firstCompatible] at found
    | cons kid kids ih =>
        rw [firstCompatible] at found
        obtain ⟨first, own, found⟩ := bind_eq_ok_iff.mp found
        dsimp only at found
        split at found
        · next none_ =>
            have unfit : a.Unfit candidates kid :=
              ⟨first, own, onCurve_eq_nil_iff.mp (by simpa using none_)⟩
            obtain ⟨before, kid', after, rfl, rest, picked⟩ := ih found
            exact ⟨kid :: before, kid', after, rfl, List.forall_mem_cons.mpr ⟨unfit, rest⟩, picked⟩
        · next some_ =>
            obtain ⟨rfl, rfl⟩ := Prod.mk.inj (Option.some.inj (pure_eq_ok_iff.mp found))
            exact ⟨[], kid, kids, rfl, List.forall_mem_nil _, own, rfl, by simpa using some_⟩
  · rintro ⟨before, kid, after, rfl, unfit, own, rfl, some_⟩
    induction before with
    | nil =>
        rw [List.nil_append, firstCompatible, own]
        exact if_neg (by simpa using some_)
    | cons k before ih =>
        obtain ⟨first, rest⟩ := List.forall_mem_cons.mp unfit
        rw [List.cons_append, firstCompatible_cons_of_unfit first]
        exact ih rest

theorem authcryptKeys_eq_ok_iff :
    a.authcryptKeys sender recipient = .ok (key, keys) ↔
      ∃ candidates kids, a.Candidates recipient candidates ∧ a.SenderKids sender kids ∧
        a.firstCompatible candidates kids = .ok (some (key, keys)) := by
  unfold authcryptKeys
  constructor
  · intro found
    obtain ⟨doc, known, found⟩ := bind_eq_ok_iff.mp found
    obtain ⟨candidates, candidatesFound, found⟩ := bind_eq_ok_iff.mp found
    obtain ⟨kids, tried, found⟩ := bind_eq_ok_iff.mp found
    obtain ⟨answer, searched, found⟩ := bind_eq_ok_iff.mp found
    cases answer with
    | none => simp at found
    | some pair =>
        obtain rfl := pure_eq_ok_iff.mp found
        exact ⟨candidates, kids, recipientKeys_eq_ok_iff.mp candidatesFound,
          senderKids_eq_ok_iff.mp ⟨doc, known, tried⟩, searched⟩
  · rintro ⟨candidates, kids, candidatesFound, tried, searched⟩
    obtain ⟨doc, known, tried⟩ := senderKids_eq_ok_iff.mpr tried
    exact bind_eq_ok_iff.mpr ⟨doc, known, bind_eq_ok_iff.mpr
      ⟨candidates, recipientKeys_eq_ok_iff.mpr candidatesFound, bind_eq_ok_iff.mpr
      ⟨kids, tried, bind_eq_ok_iff.mpr ⟨_, searched, rfl⟩⟩⟩⟩

theorem anoncryptKeys_eq_ok_iff :
    a.anoncryptKeys recipient = .ok keys ↔
      ∃ first rest, a.Candidates recipient (first :: rest) ∧
        keys = onCurve first.curve (first :: rest) := by
  unfold anoncryptKeys
  constructor
  · intro found
    obtain ⟨candidates, candidatesFound, found⟩ := bind_eq_ok_iff.mp found
    have listed := recipientKeys_eq_ok_iff.mp candidatesFound
    obtain ⟨first, rest, rfl⟩ := List.exists_cons_of_ne_nil listed.ne_nil
    exact ⟨first, rest, listed, (pure_eq_ok_iff.mp found).symm⟩
  · rintro ⟨first, rest, listed, rfl⟩
    exact bind_eq_ok_iff.mpr ⟨_, recipientKeys_eq_ok_iff.mpr listed, rfl⟩

theorem anoncryptKeys_of_singleton (found : a.recipientKeys recipient = .ok [key]) :
    a.anoncryptKeys recipient = .ok [key] :=
  anoncryptKeys_eq_ok_iff.mpr ⟨key, [], recipientKeys_eq_ok_iff.mp found, by simp [onCurve]⟩

/-! What senders rely on. -/

theorem recipientKeys_sound (found : a.recipientKeys recipient = .ok candidates) :
    ∃ doc, a.directory.document (Did.ofUrl recipient) = .ok doc ∧
      ∀ key ∈ candidates, key.id ∈ doc.keyAgreement ∧
        (Did.isUrl recipient = true → key.id = recipient) ∧ doc.Publishes key.id key := by
  cases recipientKeys_eq_ok_iff.mp found with
  | @named doc key isUrl known listed publishes =>
      refine ⟨doc, known, fun key' member => ?_⟩
      obtain rfl := List.mem_singleton.mp member
      rw [publishes.id]
      exact ⟨listed, fun _ => rfl, publishes⟩
  | @all doc keys bare known some_ publish =>
      refine ⟨doc, known, fun key member => ?_⟩
      obtain ⟨kid, kidListed, publishes⟩ := exists_of_forall₂ publish member
      rw [publishes.id]
      exact ⟨kidListed, by simp [bare], publishes⟩

theorem recipientKeys_directory {a' : Agent} (same : a.directory = a'.directory)
    (recipient : String) : a.recipientKeys recipient = a'.recipientKeys recipient := by
  unfold recipientKeys
  rw [same]

theorem authcryptKeys_sound (found : a.authcryptKeys sender recipient = .ok (key, keys)) :
    a.keyring.key key.id = .ok key ∧
      ∃ all, a.recipientKeys recipient = .ok all ∧ ∀ k ∈ keys, k ∈ all := by
  obtain ⟨candidates, kids, listed, -, searched⟩ := authcryptKeys_eq_ok_iff.mp found
  obtain ⟨before, kid, after, -, -, own, rfl, -⟩ := firstCompatible_eq_some_iff.mp searched
  obtain rfl := Keyring.id_of_key own
  exact ⟨own, candidates, recipientKeys_eq_ok_iff.mpr listed,
    fun k member => (List.mem_filter.mp member).1⟩

theorem anoncryptKeys_sound (found : a.anoncryptKeys recipient = .ok keys) :
    ∃ all, a.recipientKeys recipient = .ok all ∧ ∀ k ∈ keys, k ∈ all := by
  obtain ⟨first, rest, listed, rfl⟩ := anoncryptKeys_eq_ok_iff.mp found
  exact ⟨_, recipientKeys_eq_ok_iff.mpr listed, fun k member => (List.mem_filter.mp member).1⟩

end Agent

end DidMessaging
