import DidMessaging.Proofs.Envelope.Commitment
import DidMessaging.Proofs.Envelope.Recipients

namespace DidMessaging.Jwe

open Result

theorem recipientsHash_eq_of_perm {kids kids' : List String} (perm : kids.Perm kids') :
    recipientsHash kids = recipientsHash kids' := by
  rw [recipientsHash, recipientsHash, recipientsText_eq_of_perm perm]

namespace Received

variable {r : Received} {sender : Option Key} {keys : List Key} {entries : List Recipient}

/-! Entries in another order. -/

/-- The envelope with other entries for its recipients. -/
def listing (r : Received) (entries : List Recipient) : Received :=
  { r with jwe := { r.jwe with recipients := entries } }

theorem checkRecipients_listing (perm : entries.Perm r.jwe.recipients) :
    (r.listing entries).checkRecipients = r.checkRecipients := by
  have same : recipientsHash (r.listing entries).kids = recipientsHash r.kids :=
    recipientsHash_eq_of_perm (perm.map Recipient.kid)
  rw [checkRecipients, checkRecipients, same]
  rfl

/-- Where no kid is listed twice there is one entry at most to be found for it. -/
theorem find?_eq_some_iff_of_nodup {kid : String} {found : Recipient}
    (distinct : (entries.map (·.kid)).Nodup) :
    entries.find? (·.kid = kid) = some found ↔ found ∈ entries ∧ found.kid = kid := by
  constructor
  · intro first
    exact ⟨List.mem_of_find?_eq_some first, by simpa using List.find?_some first⟩
  · rintro ⟨listed, rfl⟩
    cases first : entries.find? (·.kid = found.kid) with
    | none => simpa using List.find?_eq_none.mp first found listed
    | some other =>
        have sameKid : other.kid = found.kid := by simpa using List.find?_some first
        have otherListed := List.mem_of_find?_eq_some first
        rw [List.inj_on_of_nodup_map distinct otherListed listed sameKid]

theorem entry_listing (distinct : r.kids.Nodup) (perm : entries.Perm r.jwe.recipients)
    (kid : String) : (r.listing entries).entry kid = r.entry kid := by
  have distinct' : (entries.map (·.kid)).Nodup := (perm.map Recipient.kid).nodup_iff.mpr distinct
  have same : entries.find? (·.kid = kid) = r.jwe.recipients.find? (·.kid = kid) := by
    ext found
    rw [find?_eq_some_iff_of_nodup distinct', find?_eq_some_iff_of_nodup distinct, perm.mem_iff]
  simp only [entry, listing, same]

theorem decrypt_listing (distinct : r.kids.Nodup) (perm : entries.Perm r.jwe.recipients)
    (sender : Option Key) (key : Key) :
    (r.listing entries).decrypt sender key = r.decrypt sender key := by
  rw [decrypt, decrypt, entry_listing distinct perm]
  rfl

theorem entry_of_notMem {kid : String} (notListed : kid ∉ r.kids) :
    r.entry kid = .error (.malformed (.noEntry kid)) := by
  have none_ : r.jwe.recipients.find? (·.kid = kid) = none := by
    apply List.find?_eq_none.mpr
    intro entry listed named
    exact notListed (of_decide_eq_true named ▸ List.mem_map_of_mem listed)
  simp only [entry, none_]

theorem decrypt_of_notMem {key : Key} (notListed : key.id ∉ r.kids) :
    r.decrypt sender key = .error (.malformed (.noEntry key.id)) := by
  rw [decrypt, entry_of_notMem notListed]
  rfl

/-! Keys in another order. -/

theorem decryptBy_all_listing {keys' : List Key} (distinct : r.kids.Nodup)
    (permKeys : keys'.Perm keys) (permEntries : entries.Perm r.jwe.recipients) :
    (∃ kids, (r.listing entries).decryptBy sender keys' true = .ok (payload, kids)) ↔
      ∃ kids, r.decryptBy sender keys true = .ok (payload, kids) := by
  have nonempty : keys' ≠ [] ↔ keys ≠ [] := by
    rw [ne_eq, ne_eq, ← List.length_eq_zero_iff, permKeys.length_eq, List.length_eq_zero_iff]
  simp only [decryptBy_all_eq_ok_iff, decrypt_listing distinct permEntries, permKeys.mem_iff,
    nonempty, exists_and_left, exists_eq, and_true]

/-- With all keys asked for, an envelope decrypts just when there are keys and each of them comes
to the payload on its own; so neither their order matters nor that of the recipients. Otherwise
the first key that decrypts decides, and there is no answer just when none does. -/
theorem decryptBy_order (r : Received) (sender : Option Key) (keys : List Key)
    (distinct : r.kids.Nodup) :
    (∀ payload kids, r.decryptBy sender keys true = .ok (payload, kids) ↔
      keys ≠ [] ∧ (∀ key ∈ keys, r.decrypt sender key = .ok payload) ∧
        kids = keys.map (·.id)) ∧
    (∀ keys' entries, keys'.Perm keys → entries.Perm r.jwe.recipients →
      (r.listing entries).checkRecipients = r.checkRecipients ∧
      ∀ payload,
        (∃ kids, (r.listing entries).decryptBy sender keys' true = .ok (payload, kids)) ↔
          ∃ kids, r.decryptBy sender keys true = .ok (payload, kids)) ∧
    (∀ payload kids, r.decryptBy sender keys false = .ok (payload, kids) ↔
      ∃ before key after, keys = before ++ key :: after ∧
        (∀ k ∈ before, ∃ e, r.decrypt sender k = .error e) ∧
        r.decrypt sender key = .ok payload ∧ kids = [key.id]) ∧
    ((∃ e, r.decryptBy sender keys false = .error e) ↔
      ∀ key ∈ keys, ∃ e, r.decrypt sender key = .error e) := by
  refine ⟨?_, ?_, ?_, decryptBy_first_eq_error_iff⟩
  · intro payload kids
    exact decryptBy_all_eq_ok_iff
  · intro keys' entries permKeys permEntries
    refine ⟨checkRecipients_listing permEntries, ?_⟩
    intro payload
    exact decryptBy_all_listing distinct permKeys permEntries
  · intro payload kids
    exact decryptBy_first_eq_ok_iff

/-- The envelope for two keys, with both in the other order, and after a key it is not for. -/
theorem decryptBy_order_two :
    ∃ r : Received, r.kids = ["did:example:bob#1", "did:example:bob#2"] ∧
      (∃ kids, (r.listing r.jwe.recipients.reverse).decryptBy (some senderKey.toPublic)
        [secondKey, firstKey] true = .ok ([104, 105], kids)) ∧
      r.decryptBy (some senderKey.toPublic)
          [.uniform "did:example:carol#1" 7, secondKey, firstKey] false =
        .ok ([104, 105], ["did:example:bob#2"]) := by
  have own : ∀ key ∈ some senderKey, key = senderKey := by simp
  have sided : Option.Rel Key.SamePoint (some senderKey) (some senderKey.toPublic) :=
    .some (Key.samePoint_of_jwk rfl rfl rfl)
  obtain ⟨j, r, -, -, -, names, each⟩ := exists_received_two [104, 105]
    AuthAlgorithm.usual.content sized_senderKey own sided
  have kids : r.kids = ["did:example:bob#1", "did:example:bob#2"] := names.kids
  have distinct : r.kids.Nodup := by
    rw [kids]
    decide
  refine ⟨r, kids, ?_, ?_⟩
  · obtain ⟨all, rearranged, -⟩ :=
      decryptBy_order r (some senderKey.toPublic) [firstKey, secondKey] distinct
    have decrypted := (all [104, 105] _).mpr ⟨List.cons_ne_nil _ _, each, rfl⟩
    exact ((rearranged [secondKey, firstKey] _ (.swap _ _ _) (List.reverse_perm _)).2 _).mpr
      ⟨_, decrypted⟩
  · obtain ⟨-, -, loose, -⟩ := decryptBy_order r (some senderKey.toPublic)
      [.uniform "did:example:carol#1" 7, secondKey, firstKey] distinct
    have stranger : "did:example:carol#1" ∉ r.kids := by
      rw [kids]
      decide
    apply (loose _ _).mpr
    refine ⟨[.uniform "did:example:carol#1" 7], secondKey, [firstKey], rfl, ?_,
      each secondKey (by simp), rfl⟩
    exact List.forall_mem_singleton.mpr ⟨_, decrypt_of_notMem stranger⟩

end Received

end DidMessaging.Jwe
