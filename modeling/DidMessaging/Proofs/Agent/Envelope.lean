import DidMessaging.Agent.Unpacking
import DidMessaging.Proofs.Result

namespace DidMessaging.Envelope

open Result

theorem ofText_of_object (read : Json.read? text = some (.object members)) :
    ofText text =
      if (Members.names members).contains "recipients" then (Jwe.parse text).map .encrypted
      else if (Members.names members).contains "signatures" then (Jws.parse text).map .signed
      else .ok (.plain (.object members)) := by
  simp only [ofText, read]
  split
  · rfl
  · split <;> rfl

theorem object_of_ofText (received : ofText text = .ok e) :
    ∃ members, Json.read? text = some (.object members) := by
  unfold ofText at received
  cases read : Json.read? text with
  | none => simp [read] at received
  | some value =>
      cases value with
      | object members => exact ⟨members, rfl⟩
      | _ => simp [read] at received

theorem signed_of_ofText (received : ofText text = .ok (.signed j)) : Jws.parse text = .ok j := by
  obtain ⟨members, read⟩ := object_of_ofText received
  rw [ofText_of_object read] at received
  split at received
  · obtain ⟨r, -, different⟩ := map_eq_ok_iff.mp received
    contradiction
  · split at received
    · obtain ⟨j', parsed, same⟩ := map_eq_ok_iff.mp received
      obtain rfl := Envelope.signed.inj same
      exact parsed
    · have different := Except.ok.inj received
      contradiction

theorem encrypted_of_ofText (received : ofText text = .ok (.encrypted r)) :
    Jwe.parse text = .ok r := by
  obtain ⟨members, read⟩ := object_of_ofText received
  rw [ofText_of_object read] at received
  split at received
  · obtain ⟨r', parsed, same⟩ := map_eq_ok_iff.mp received
    obtain rfl := Envelope.encrypted.inj same
    exact parsed
  · split at received
    · obtain ⟨j, -, different⟩ := map_eq_ok_iff.mp received
      contradiction
    · have different := Except.ok.inj received
      contradiction

theorem ofText_encrypted (read : Json.read? text = some (.object members))
    (recipients : "recipients" ∈ Members.names members) (parsed : Jwe.parse text = .ok r) :
    ofText text = .ok (.encrypted r) := by
  rw [ofText_of_object read, if_pos (List.contains_iff_mem.mpr recipients), parsed]
  rfl

theorem plain_of_ofText (read : Json.read? text = some (.object members)) :
    ofText text = .ok (.plain value) ↔
      "recipients" ∉ Members.names members ∧ "signatures" ∉ Members.names members ∧
        value = .object members := by
  rw [ofText_of_object read]
  by_cases recipients : "recipients" ∈ Members.names members
  · simp only [List.contains_iff_mem, if_pos recipients, map_eq_ok_iff]
    simp [recipients]
  · by_cases signatures : "signatures" ∈ Members.names members
    · simp only [List.contains_iff_mem, if_neg recipients, if_pos signatures, map_eq_ok_iff]
      simp [signatures]
    · simp only [List.contains_iff_mem, if_neg recipients, if_neg signatures]
      simp [recipients, signatures, eq_comm]

theorem read?_of_ofText (received : ofText text = .ok (.plain value)) :
    Json.read? text = some value := by
  obtain ⟨members, read⟩ := object_of_ofText received
  obtain ⟨-, -, rfl⟩ := (plain_of_ofText read).mp received
  exact read

end DidMessaging.Envelope
