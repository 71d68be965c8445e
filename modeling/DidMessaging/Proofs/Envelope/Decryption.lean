import DidMessaging.Envelope.Encryption
import DidMessaging.Proofs.Result

namespace DidMessaging.Jwe.Received

open Result

variable {r : Received} {sender : Option Key} {keys : List Key}

theorem decryptAll_eq_ok_iff :
    r.decryptAll sender (some payload) keys = .ok answer ↔
      answer = some payload ∧ ∀ key ∈ keys, r.decrypt sender key = .ok payload := by
  induction keys with
  | nil => simp [decryptAll, eq_comm]
  | cons key keys ih =>
      simp only [decryptAll, bind_eq_ok_iff, ite_throw_eq_ok_iff, List.forall_mem_cons]
      constructor
      · rintro ⟨found, decrypted, same, rest⟩
        obtain rfl : payload = found := by simpa using same
        obtain ⟨found, others⟩ := ih.mp rest
        exact ⟨found, decrypted, others⟩
      · rintro ⟨found, decrypted, others⟩
        exact ⟨payload, decrypted, by simp, ih.mpr ⟨found, others⟩⟩

theorem decryptAll_none_eq_ok_iff :
    r.decryptAll sender none keys = .ok (some payload) ↔
      keys ≠ [] ∧ ∀ key ∈ keys, r.decrypt sender key = .ok payload := by
  cases keys with
  | nil => simp [decryptAll]
  | cons key keys =>
      simp only [decryptAll, bind_eq_ok_iff, List.forall_mem_cons]
      constructor
      · rintro ⟨found, decrypted, rest⟩
        obtain ⟨same, others⟩ := decryptAll_eq_ok_iff.mp rest
        obtain rfl := Option.some.inj same
        exact ⟨List.cons_ne_nil _ _, decrypted, others⟩
      · rintro ⟨-, decrypted, others⟩
        exact ⟨payload, decrypted, decryptAll_eq_ok_iff.mpr ⟨rfl, others⟩⟩

theorem decryptBy_all_eq_ok_iff {kids : List String} :
    r.decryptBy sender keys true = .ok (payload, kids) ↔
      keys ≠ [] ∧ (∀ key ∈ keys, r.decrypt sender key = .ok payload) ∧
        kids = keys.map (·.id) := by
  unfold decryptBy
  simp only [if_true, bind_eq_ok_iff]
  constructor
  · rintro ⟨found, allDecrypted, answer⟩
    cases found with
    | none => simp at answer
    | some found =>
        obtain ⟨rfl, rfl⟩ := Prod.mk.inj (pure_eq_ok_iff.mp answer)
        obtain ⟨nonempty, each⟩ := decryptAll_none_eq_ok_iff.mp allDecrypted
        exact ⟨nonempty, each, rfl⟩
  · rintro ⟨nonempty, each, rfl⟩
    exact ⟨some payload, decryptAll_none_eq_ok_iff.mpr ⟨nonempty, each⟩, rfl⟩

theorem decryptFirst_eq_ok_iff {failure : Error} :
    r.decryptFirst sender failure keys = .ok (payload, kid) ↔
      ∃ before key after, keys = before ++ key :: after ∧
        (∀ k ∈ before, ∃ e, r.decrypt sender k = .error e) ∧
        r.decrypt sender key = .ok payload ∧ key.id = kid := by
  constructor
  · intro decrypted
    induction keys generalizing failure with
    | nil => simp [decryptFirst] at decrypted
    | cons key keys ih =>
        cases first : r.decrypt sender key with
        | ok found =>
            simp only [decryptFirst, first] at decrypted
            obtain ⟨rfl, rfl⟩ := Prod.mk.inj (Except.ok.inj decrypted)
            exact ⟨[], key, keys, rfl, List.forall_mem_nil _, first, rfl⟩
        | error e =>
            simp only [decryptFirst, first] at decrypted
            obtain ⟨before, opener, after, rfl, fail, opened, id⟩ := ih decrypted
            exact ⟨key :: before, opener, after, rfl,
              List.forall_mem_cons.mpr ⟨⟨e, first⟩, fail⟩, opened, id⟩
  · rintro ⟨before, key, after, rfl, fail, opened, rfl⟩
    induction before generalizing failure with
    | nil => simp only [List.nil_append, decryptFirst, opened]
    | cons k before ih =>
        obtain ⟨⟨e, failed⟩, fail⟩ := List.forall_mem_cons.mp fail
        simp only [List.cons_append, decryptFirst, failed]
        exact ih fail

theorem decryptFirst_eq_error_iff {failure : Error} :
    (∃ e, r.decryptFirst sender failure keys = .error e) ↔
      ∀ key ∈ keys, ∃ e, r.decrypt sender key = .error e := by
  induction keys generalizing failure with
  | nil => simp [decryptFirst]
  | cons key keys ih =>
      rw [List.forall_mem_cons]
      cases first : r.decrypt sender key with
      | ok found => simp [decryptFirst, first]
      | error e => simp only [decryptFirst, first, ih, Except.error.injEq, exists_eq', true_and]

theorem decryptBy_first_eq_ok_iff {kids : List String} :
    r.decryptBy sender keys false = .ok (payload, kids) ↔
      ∃ before key after, keys = before ++ key :: after ∧
        (∀ k ∈ before, ∃ e, r.decrypt sender k = .error e) ∧
        r.decrypt sender key = .ok payload ∧ kids = [key.id] := by
  unfold decryptBy
  constructor
  · intro decrypted
    obtain ⟨⟨found, kid⟩, first, answer⟩ := bind_eq_ok_iff.mp decrypted
    obtain ⟨rfl, rfl⟩ := Prod.mk.inj (pure_eq_ok_iff.mp answer)
    obtain ⟨before, key, after, keys, fail, opened, rfl⟩ := decryptFirst_eq_ok_iff.mp first
    exact ⟨before, key, after, keys, fail, opened, rfl⟩
  · rintro ⟨before, key, after, keys, fail, opened, rfl⟩
    refine bind_eq_ok_iff.mpr ⟨(payload, key.id), ?_, rfl⟩
    exact decryptFirst_eq_ok_iff.mpr ⟨before, key, after, keys, fail, opened, rfl⟩

theorem decryptBy_first_eq_error_iff :
    (∃ e, r.decryptBy sender keys false = .error e) ↔
      ∀ key ∈ keys, ∃ e, r.decrypt sender key = .error e := by
  rw [← decryptFirst_eq_error_iff]
  unfold decryptBy
  cases r.decryptFirst sender (.malformed .noKeys) keys with
  | ok answer => simp
  | error e => simp

/-- One key that decrypts is enough. -/
theorem exists_decryptBy_first
    (opener : ∃ key ∈ keys, ∃ payload, r.decrypt sender key = .ok payload) :
    ∃ payload kids, r.decryptBy sender keys false = .ok (payload, kids) := by
  cases decrypted : r.decryptBy sender keys false with
  | ok answer => exact ⟨answer.1, answer.2, rfl⟩
  | error e =>
      obtain ⟨key, listed, payload, opens⟩ := opener
      obtain ⟨e', fails⟩ := decryptBy_first_eq_error_iff.mp ⟨e, decrypted⟩ key listed
      rw [opens] at fails
      contradiction

theorem decryptBy_sound {kids : List String}
    (decrypted : r.decryptBy sender keys all = .ok (payload, kids)) :
    ∃ key ∈ keys, r.decrypt sender key = .ok payload := by
  cases all with
  | true =>
      obtain ⟨nonempty, each, -⟩ := decryptBy_all_eq_ok_iff.mp decrypted
      obtain ⟨key, member⟩ := List.exists_mem_of_ne_nil keys nonempty
      exact ⟨key, member, each key member⟩
  | false =>
      obtain ⟨before, key, after, rfl, -, opened, -⟩ := decryptBy_first_eq_ok_iff.mp decrypted
      exact ⟨key, List.mem_append_right _ List.mem_cons_self, opened⟩

/-- When all keys are asked for, each of them decrypts to the payload on its own. -/
theorem decrypt_of_decryptBy {kids : List String}
    (decrypted : r.decryptBy sender keys true = .ok (payload, kids)) :
    ∀ key ∈ keys, r.decrypt sender key = .ok payload :=
  (decryptBy_all_eq_ok_iff.mp decrypted).2.1

/-- Keys that all decrypt to one payload decrypt to it with either demand. -/
theorem decryptBy_complete (all : Bool) (nonempty : keys ≠ [])
    (each : ∀ key ∈ keys, r.decrypt sender key = .ok payload) :
    ∃ kids, r.decryptBy sender keys all = .ok (payload, kids) := by
  cases all with
  | true => exact ⟨_, decryptBy_all_eq_ok_iff.mpr ⟨nonempty, each, rfl⟩⟩
  | false =>
      obtain ⟨key, others, rfl⟩ := List.exists_cons_of_ne_nil nonempty
      exact ⟨_, decryptBy_first_eq_ok_iff.mpr
        ⟨[], key, others, rfl, List.forall_mem_nil _, each key List.mem_cons_self, rfl⟩⟩

theorem anonDecrypt_eq_ok_iff :
    r.anonDecrypt keys all = .ok answer ↔
      r.header.skid = none ∧ r.header.apu = none ∧ r.checkRecipients = .ok () ∧
        r.decryptBy none keys all = .ok answer := by
  unfold anonDecrypt
  simp only [ite_throw_eq_ok_iff, check_bind_eq_ok_iff]
  simp [and_assoc]

theorem authDecrypt_eq_ok_iff {sender : Key} :
    r.authDecrypt sender keys all = .ok answer ↔
      r.header.skid = some sender.id ∧ r.checkRecipients = .ok () ∧
        r.decryptBy (some sender) keys all = .ok answer := by
  unfold authDecrypt
  simp only [ite_throw_eq_ok_iff, check_bind_eq_ok_iff]
  simp

theorem jwe_of_withSender {r' : Received} (found : r.withSender = .ok r') : r'.jwe = r.jwe := by
  obtain ⟨kid, -, found⟩ := bind_eq_ok_iff.mp found
  rw [← pure_eq_ok_iff.mp found]

end DidMessaging.Jwe.Received
