import DidMessaging.Proofs.Agent.Candidates
import DidMessaging.Proofs.Agent.Encrypted
import DidMessaging.Proofs.Key.Disclosure

namespace DidMessaging

open Result

theorem Document.Publishes.exists_method {doc : Document} {kid : String} {key : Key}
    (publishes : doc.Publishes kid key) :
    ∃ m ∈ doc.methods, m.id = kid ∧ Key.ofMethod m = .ok key := by
  obtain ⟨m, found, made⟩ := bind_eq_ok_iff.mp publishes
  obtain ⟨member, id⟩ := Document.method?_sound (Document.method_eq_ok_iff.mp found)
  exact ⟨m, member, id, made⟩

/-- A document of the directory publishes the key in a method under its id. -/
def Directory.Lists (d : Directory) (k : Key) : Prop :=
  ∃ doc ∈ d.documents, ∃ m ∈ doc.methods, m.id = k.id ∧ Key.ofMethod m = .ok k

namespace Agent

/-- A key of someone else that an agent takes from a document: to verify a signature, to encrypt for
its owner, or as that of the sender of a message. -/
inductive Takes (a : Agent) (k : Key) : Prop
  | signer (found : a.verificationKey kid = .ok k)
  | recipient (found : a.authcryptKeys sender recipient = .ok (own, keys)) (member : k ∈ keys)
  | anonymous (found : a.anoncryptKeys recipient = .ok keys) (member : k ∈ keys)
  | sender (found : a.authDecryptKeys kid kids = .ok (k, own))

variable {a : Agent} {k : Key}

theorem lists_of_recipientKeys {keys : List Key}
    (found : a.recipientKeys recipient = .ok keys) (member : k ∈ keys) :
    a.directory.Lists k := by
  obtain ⟨doc, known, each⟩ := recipientKeys_sound found
  obtain ⟨-, -, publishes⟩ := each k member
  exact ⟨doc, (Directory.mem_of_document known).1, publishes.exists_method⟩

theorem lists_of_verificationKey (found : a.verificationKey kid = .ok k) :
    a.directory.Lists k := by
  obtain ⟨-, -, doc, m, resolved, member, id, made⟩ := verificationKey_sound found
  have known := Directory.mem_of_document (Directory.document_eq_ok_iff.mpr resolved)
  exact ⟨doc, known.1, m, member, (Key.id_of_ofMethod made).symm, made⟩

theorem Takes.lists (takes : a.Takes k) : a.directory.Lists k := by
  cases takes with
  | signer found => exact lists_of_verificationKey found
  | recipient found member =>
      obtain ⟨-, all, candidates, listed⟩ := authcryptKeys_sound found
      exact lists_of_recipientKeys candidates (listed k member)
  | anonymous found member =>
      obtain ⟨all, candidates, listed⟩ := anoncryptKeys_sound found
      exact lists_of_recipientKeys candidates (listed k member)
  | sender found =>
      obtain ⟨published, -⟩ := authDecryptKeys_eq_ok_iff.mp found
      exact lists_of_verificationKey published

/-- A key that is read from a method is private, and not its own public half, just if the method
discloses a private part; a key that is taken from a document is read from the method in it under
its id. So all keys that are taken are public where no document discloses a private part. -/
theorem taken_private_iff (a : Agent) (k : Key) :
    (∀ m, Key.ofMethod m = .ok k →
      (k.isPrivate = true ↔ m.Discloses) ∧ (k.toPublic = k ↔ ¬m.Discloses)) ∧
    (a.Takes k → ∃ doc ∈ a.directory.documents, ∃ m ∈ doc.methods,
      m.id = k.id ∧ Key.ofMethod m = .ok k ∧ (k.isPrivate = true ↔ m.Discloses)) ∧
    ((∀ doc ∈ a.directory.documents, ∀ m ∈ doc.methods, ¬m.Discloses) →
      a.Takes k → k.toPublic = k) := by
  have read (m : VerificationMethod) (made : Key.ofMethod m = .ok k) :
      (k.isPrivate = true ↔ m.Discloses) ∧ (k.toPublic = k ↔ ¬m.Discloses) := by
    have whole := Key.isPrivate_iff_discloses made
    exact ⟨whole, by rw [Key.toPublic_eq_self_iff, ← whole, Bool.not_eq_true]⟩
  refine ⟨read, ?_, ?_⟩
  · intro takes
    obtain ⟨doc, known, m, member, id, made⟩ := takes.lists
    exact ⟨doc, known, m, member, id, made, (read m made).1⟩
  · intro closed takes
    obtain ⟨doc, known, m, member, -, made⟩ := takes.lists
    exact (read m made).2.mpr (closed doc known m member)

/-! A document in which a key was left whole. -/

def wholeMethod : VerificationMethod :=
  ⟨bobKey.id, .jsonWebKey2020, "did:example:bob", .jwk bobKey.jwk.json⟩

def wholeDocument : Document := { bobDocument with methods := [wholeMethod] }

def carelessAlice : Agent := ⟨.ofDocuments [aliceDocument, wholeDocument], alice.keyring⟩

theorem ofMethod_wholeMethod : Key.ofMethod wholeMethod = .ok bobKey :=
  (Key.ofJson_json bobKey.jwk).trans
    (Key.ofJwk_pair rfl (X25519.length_publicKey _) List.length_replicate _ _)

theorem recipientKeys_carelessAlice :
    carelessAlice.recipientKeys "did:example:bob" = .ok [bobKey] := by
  refine bind_eq_ok_iff.mpr ⟨wholeDocument, rfl, bind_eq_ok_iff.mpr ⟨[wholeMethod], rfl, ?_⟩⟩
  exact mapM_eq_ok_iff.mpr (.cons ofMethod_wholeMethod .nil)

theorem verificationKey_carelessAlice :
    carelessAlice.verificationKey "did:example:bob#1" = .ok bobKey :=
  verificationKey_eq_ok_iff.mpr
    ⟨by decide, wholeDocument, wholeMethod, rfl, rfl, ofMethod_wholeMethod⟩

theorem authcryptKeys_carelessAlice :
    carelessAlice.authcryptKeys "did:example:alice" "did:example:bob" =
      .ok (aliceKey, [bobKey]) := by
  refine bind_eq_ok_iff.mpr ⟨aliceDocument, rfl,
    bind_eq_ok_iff.mpr ⟨_, recipientKeys_carelessAlice, ?_⟩⟩
  refine bind_eq_ok_iff.mpr ⟨["did:example:alice#1"], rfl,
    bind_eq_ok_iff.mpr ⟨some (aliceKey, [bobKey]), ?_, rfl⟩⟩
  exact bind_eq_ok_iff.mpr ⟨aliceKey, key_aliceKey, rfl⟩

theorem authDecryptKeys_carelessAlice :
    carelessAlice.authDecryptKeys "did:example:bob#1" ["did:example:alice#1"] =
      .ok (bobKey, [aliceKey]) := by
  have held : carelessAlice.heldKeys ["did:example:alice#1"] = .ok [aliceKey] :=
    mapM_eq_ok_iff.mpr (.cons key_aliceKey .nil)
  exact authDecryptKeys_eq_ok_iff.mpr
    ⟨verificationKey_carelessAlice, [aliceKey], held, rfl, List.cons_ne_nil _ _⟩

/-- The key is taken whole, whatever it is taken for. -/
theorem taken_private_iff_whole :
    wholeMethod.Discloses ∧ bobKey.isPrivate = true ∧ bobKey.toPublic ≠ bobKey ∧
      carelessAlice.verificationKey "did:example:bob#1" = .ok bobKey ∧
      carelessAlice.anoncryptKeys "did:example:bob" = .ok [bobKey] ∧
      carelessAlice.authcryptKeys "did:example:alice" "did:example:bob" =
        .ok (aliceKey, [bobKey]) ∧
      carelessAlice.authDecryptKeys "did:example:bob#1" ["did:example:alice#1"] =
        .ok (bobKey, [aliceKey]) ∧
      ∃ doc ∈ carelessAlice.directory.documents, ∃ m ∈ doc.methods, m.id = bobKey.id ∧
        m.Discloses := by
  have discloses : wholeMethod.Discloses :=
    ⟨bobKey.jwk.json, rfl, .member (List.mem_append_right _ List.mem_cons_self)⟩
  obtain ⟨read, taken, -⟩ := taken_private_iff carelessAlice bobKey
  obtain ⟨whole, half⟩ := read wholeMethod ofMethod_wholeMethod
  obtain ⟨doc, known, m, member, id, -, same⟩ := taken (.signer verificationKey_carelessAlice)
  exact ⟨discloses, whole.mpr discloses, fun same => half.mp same discloses,
    verificationKey_carelessAlice, anoncryptKeys_of_singleton recipientKeys_carelessAlice,
    authcryptKeys_carelessAlice, authDecryptKeys_carelessAlice, doc, known, m, member, id,
    same.mp (whole.mpr discloses)⟩

end Agent

end DidMessaging
