import DidMessaging.Agent.Keys
import DidMessaging.Proofs.Key.Basic

namespace DidMessaging

open Result

/-- The document that the directory has for a DID publishes a key under an id of the DID. -/
structure Agent.Publishes (a : Agent) (did kid : String) (key : Key) : Prop where
  isUrl : Did.isUrl kid = true
  ofUrl : Did.ofUrl kid = did
  published : ∃ doc method, a.directory.resolve did = .ok (some doc) ∧ method ∈ doc.methods ∧
    method.id = kid ∧ Key.ofMethod method = .ok key

theorem Directory.document_eq_ok_iff {d : Directory} :
    d.document did = .ok doc ↔ d.resolve did = .ok (some doc) := by
  unfold document
  rw [bind_eq_ok_iff]
  constructor
  · rintro ⟨found, resolved, rest⟩
    cases found with
    | none => simp at rest
    | some doc' =>
        obtain rfl := pure_eq_ok_iff.mp rest
        exact resolved
  · rintro resolved
    exact ⟨some doc, resolved, rfl⟩

theorem Directory.mem_of_document {d : Directory} (found : d.document did = .ok doc) :
    doc ∈ d.documents ∧ doc.id = did := by
  have resolved := Directory.document_eq_ok_iff.mp found
  unfold resolve at resolved
  split at resolved
  · contradiction
  · have listed := Except.ok.inj resolved
    exact ⟨List.mem_of_find?_eq_some listed, by simpa using List.find?_some listed⟩

/-- Documents that are made over, each under its own id, are found as they were. -/
theorem Directory.resolve_map {f : Document → Document} (kept : ∀ doc, (f doc).id = doc.id)
    (d : Directory) (did : String) :
    { d with documents := d.documents.map f }.resolve did =
      (d.resolve did).map (Option.map f) := by
  unfold resolve
  simp only [List.find?_map, Function.comp_def, kept]
  split <;> rfl

theorem Document.method_eq_ok_iff {d : Document} {kid : String} {m : VerificationMethod} :
    d.method kid = .ok m ↔ d.method? kid = some m := by
  unfold Document.method
  cases d.method? kid <;> simp

theorem Document.method?_sound {d : Document} {kid : String} {m : VerificationMethod}
    (found : d.method? kid = some m) : m ∈ d.methods ∧ m.id = kid := by
  refine ⟨List.mem_of_find?_eq_some found, ?_⟩
  simpa using List.find?_some found

theorem Document.exists_method_iff {d : Document} {kid : String} :
    (∃ m, d.method kid = .ok m) ↔ ∃ m ∈ d.methods, m.id = kid := by
  simp only [method_eq_ok_iff, method?, ← Option.isSome_iff_exists, List.find?_isSome,
    decide_eq_true_eq]

theorem Document.method_eq_error {d : Document} {kid : String}
    (unpublished : ∀ m ∈ d.methods, m.id ≠ kid) : d.method kid = .error (.didUrlNotFound kid) := by
  have none_ : d.method? kid = none := List.find?_eq_none.mpr (by simpa using unpublished)
  rw [method, none_]

theorem Agent.Publishes.id {a : Agent} {key : Key} (published : a.Publishes did kid key) :
    key.id = kid := by
  obtain ⟨-, -, doc, method, -, -, id, ofMethod⟩ := published
  rw [Key.id_of_ofMethod ofMethod, id]

namespace Agent

theorem verificationKey_eq_ok_iff {a : Agent} :
    a.verificationKey kid = .ok key ↔
      Did.isUrl kid = true ∧ ∃ doc method, a.directory.document (Did.ofUrl kid) = .ok doc ∧
        doc.method? kid = some method ∧ Key.ofMethod method = .ok key := by
  unfold verificationKey
  simp only [ite_throw_eq_ok_iff, bind_eq_ok_iff, Document.method_eq_ok_iff, exists_and_left]
  simp

theorem verificationKey_sound {a : Agent} (found : a.verificationKey kid = .ok key) :
    a.Publishes (Did.ofUrl kid) kid key := by
  obtain ⟨isUrl, doc, method, resolved, methodFound, ofMethod⟩ := verificationKey_eq_ok_iff.mp found
  obtain ⟨member, id⟩ := Document.method?_sound methodFound
  exact ⟨isUrl, rfl, doc, method, Directory.document_eq_ok_iff.mp resolved, member, id, ofMethod⟩

/-- The sender is known by a published key. Of the keys that the agent holds those on its curve are
tried. -/
theorem authDecryptKeys_eq_ok_iff {a : Agent} :
    a.authDecryptKeys sender kids = .ok (key, keys) ↔
      a.verificationKey sender = .ok key ∧
        ∃ held, a.heldKeys kids = .ok held ∧ onCurve key.curve held = keys ∧ keys ≠ [] := by
  rw [verificationKey_eq_ok_iff]
  unfold authDecryptKeys
  simp only [ite_throw_eq_ok_iff, bind_eq_ok_iff, Document.method_eq_ok_iff, pure_eq_ok_iff]
  constructor
  · rintro ⟨isUrl, doc, resolved, method, found, key', ofMethod, held, heldFound, some_, same⟩
    obtain ⟨rfl, rfl⟩ := Prod.mk.inj same
    exact ⟨⟨by simpa using isUrl, doc, method, resolved, found, ofMethod⟩, held, heldFound, rfl,
      by simpa using some_⟩
  · rintro ⟨⟨isUrl, doc, method, resolved, found, ofMethod⟩, held, heldFound, rfl, some_⟩
    exact ⟨by simpa using isUrl, doc, resolved, method, found, key, ofMethod, held, heldFound,
      by simpa using some_, rfl⟩

end Agent

end DidMessaging
