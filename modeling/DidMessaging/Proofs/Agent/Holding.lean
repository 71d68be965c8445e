import DidMessaging.Proofs.Agent.Authenticity

namespace DidMessaging

open Result

namespace Keyring

/-- The ids under which there is a key on the curve. -/
def heldOn (k : Keyring) (curve : Curve) (ids : List String) : List String :=
  (k.held ids).filter fun id => (k.key id).toOption.any fun key => key.curve = curve

theorem heldOn_eq_held_iff {k : Keyring} {curve : Curve} {ids : List String} :
    k.heldOn curve ids = k.held ids ↔
      ∀ id ∈ k.held ids, ∃ key, k.key id = .ok key ∧ key.curve = curve := by
  rw [heldOn, List.filter_eq_self]
  refine forall₂_congr fun id _ => ?_
  cases k.key id <;> simp [Except.toOption]

end Keyring

/-- An envelope that was opened with the keys that an agent holds for it. -/
structure Opened.With (o : Opened) (b : Agent) (all : Bool) : Prop where
  keys : ∀ key ∈ o.keys, b.keyring.key key.id = .ok key
  anonymous : o.sender = none → o.kids = b.keyring.held o.envelope.kids
  authentic : ∀ key ∈ o.sender, o.kids = b.keyring.heldOn key.curve o.envelope.kids
  each : all = true → ∀ key ∈ o.keys, o.envelope.decrypt o.sender key = .ok o.payload

namespace Agent

variable {b : Agent}

theorem heldKeys_sound (found : b.heldKeys kids = .ok held) :
    held.map (·.id) = b.keyring.held kids ∧ ∀ key ∈ held, b.keyring.key key.id = .ok key := by
  unfold heldKeys at found
  dsimp only at found
  split at found
  · contradiction
  · have each := mapM_eq_ok_iff.mp found
    have named := each.imp fun kid key => Keyring.id_of_key
    refine ⟨by rw [map_eq_map_of_forall₂ named, List.map_id'], fun key member => ?_⟩
    obtain ⟨kid, -, keyFound⟩ := exists_of_forall₂ each member
    rwa [Keyring.id_of_key keyFound]

theorem map_id_onCurve {kids : List String} (curve : Curve)
    (ids : held.map (·.id) = b.keyring.held kids)
    (own : ∀ key ∈ held, b.keyring.key key.id = .ok key) :
    (onCurve curve held).map (·.id) = b.keyring.heldOn curve kids := by
  rw [Keyring.heldOn, ← ids, List.filter_map, onCurve]
  congr 1
  refine List.filter_congr fun key member => ?_
  simp [own key member, Except.toOption]

theorem with_of_openAnon (opened : b.openAnon all .nothing r = .ok o) :
    o.envelope = r ∧ o.With b all := by
  obtain ⟨rfl, isNone, found, kids, decrypted⟩ := openAnon_nothing_eq_ok_iff.mp opened
  obtain ⟨ids, own⟩ := heldKeys_sound found
  obtain ⟨-, -, -, decrypted⟩ := Jwe.Received.anonDecrypt_eq_ok_iff.mp decrypted
  rw [← isNone] at decrypted
  exact ⟨rfl, {
    keys := own
    anonymous := fun _ => ids
    authentic := fun key isSender => by simp [isNone] at isSender
    each := fun demanded => Jwe.Received.decrypt_of_decryptBy (demanded ▸ decrypted) }⟩

theorem with_of_openAuth (opened : b.openAuth all .nothing r = .ok (sender, o)) : o.With b all := by
  obtain ⟨-, -, key, isSender, found, kids, decrypted⟩ := openAuth_nothing_eq_ok_iff.mp opened
  obtain ⟨-, held, heldFound, tried, -⟩ := authDecryptKeys_eq_ok_iff.mp found
  obtain ⟨ids, own⟩ := heldKeys_sound heldFound
  obtain ⟨-, -, decrypted⟩ := Jwe.Received.authDecrypt_eq_ok_iff.mp decrypted
  rw [← isSender] at decrypted
  exact {
    keys := fun key member => by
      rw [← tried] at member
      exact own key (List.mem_filter.mp member).1
    anonymous := fun isNone => by simp [isSender] at isNone
    authentic := fun key' isSender' => by
      obtain rfl : key = key' := Option.some.inj (isSender.symm.trans isSender')
      rw [Opened.kids, ← tried]
      exact map_id_onCurve key.curve ids own
    each := fun demanded => Jwe.Received.decrypt_of_decryptBy (demanded ▸ decrypted) }

end Agent

/-- Any layer that is an encrypted envelope was opened with the keys that the agent holds. -/
theorem Opens.encrypted_sound {b : Agent} {options : UnpackOptions} {o : Opened}
    (opens : Opens b options text layer content) (opened : layer.opened? = some o) :
    o.With b options.allKeys ∧ ∃ r, Jwe.parse text = .ok r ∧ o.envelope.jwe = r.jwe := by
  cases opens with
  | signed received checked decoded inside => contradiction
  | auth received algorithm opens inside =>
      obtain rfl := Option.some.inj opened
      refine ⟨Agent.with_of_openAuth opens, _, Envelope.encrypted_of_ofText received, ?_⟩
      exact Jwe.Received.jwe_of_withSender (Agent.openAuth_sound opens).1
  | anon received algorithm opens inside stays =>
      obtain rfl := Option.some.inj opened
      obtain ⟨rfl, used⟩ := Agent.with_of_openAnon opens
      exact ⟨used, _, Envelope.encrypted_of_ofText received, rfl⟩
  | forward received algorithm opens inside asked toUs =>
      obtain rfl := Option.some.inj opened
      obtain ⟨rfl, used⟩ := Agent.with_of_openAnon opens
      exact ⟨used, _, Envelope.encrypted_of_ofText received, rfl⟩

namespace Stack

theorem opened?_of_signed {signed : Option (String × Jws × List (String × SignatureAlgorithm))}
    (member : layer ∈ ({ signed := signed } : Stack).layers) : layer.opened? = none := by
  cases signed with
  | none => simp [layers, kernel] at member
  | some found =>
      obtain rfl : layer = .signed found.1 found.2.1 found.2.2 := by
        simpa [layers, kernel] using member
      rfl

/-- The ids in the metadata are those of the last encrypted envelope. -/
theorem encryptedTo_sound {s : Stack} (told : s.metadata.encryptedTo = some kids) :
    ∃ before layer o after, s.layers = before ++ layer :: after ∧ layer.opened? = some o ∧
      (∀ inner ∈ after, inner.opened? = none) ∧ o.kids = kids := by
  cases auth : s.auth with
  | some layer =>
      obtain ⟨algorithm, sender, o⟩ := layer
      refine ⟨_, _, o, _, layers_of_auth auth, rfl, fun _ => opened?_of_signed, ?_⟩
      simpa [metadata, auth] using told
  | none =>
      cases anon : s.anon with
      | some layer =>
          obtain ⟨algorithm, o⟩ := layer
          refine ⟨_, _, o, _, layers_of_anon anon auth, rfl, fun _ => opened?_of_signed, ?_⟩
          simpa [metadata, auth, anon] using told
      | none => simp [metadata, auth, anon] at told

end Stack

/-- The ids that a message is reported to have been encrypted to belong to the last envelope that
was removed. Without a sender they are all of its recipients that the agent holds keys for, in their
order; from a sender only those on the curve of the sender's key, so that none is missing just when
all of them are. With all keys asked for, each of those that are reported decrypts the envelope. -/
theorem unpack_encryptedTo {b : Agent} {options : UnpackOptions}
    (unpacked : b.unpack text options = .ok u) (told : u.metadata.encryptedTo = some kids) :
    ∃ w before layer o after outside r value,
      b.unwrap options text = .ok w ∧ w.layers = before ++ layer :: after ∧
      layer.opened? = some o ∧ (∀ inner ∈ after, inner.opened? = none) ∧
      Nested b options outside (layer :: after) value ∧
      Jwe.parse outside = .ok r ∧ o.envelope.jwe = r.jwe ∧
      (o.sender = none → kids = b.keyring.held r.kids) ∧
      (∀ sender ∈ o.sender, kids = b.keyring.heldOn sender.curve r.kids) ∧
      (kids = b.keyring.held r.kids ↔ ∀ sender ∈ o.sender, ∀ kid ∈ b.keyring.held r.kids,
        ∃ key, b.keyring.key kid = .ok key ∧ key.curve = sender.curve) ∧
      (options.allKeys = true → ∀ kid ∈ kids, ∃ key, b.keyring.key kid = .ok key ∧
        o.envelope.decrypt o.sender key = .ok o.payload) := by
  obtain ⟨w, unwrapped, settled, -, -⟩ := Agent.unpack_eq_ok_iff.mp unpacked
  obtain ⟨s, value, layers, nested, read⟩ := Agent.unwrap_sound unwrapped
  obtain ⟨⟨kid, metadata⟩, -⟩ :=
    Agent.settleRotation_frame layers (Message.rotation_of_ofWire read) settled
  rw [metadata] at told
  obtain ⟨before, layer, o, after, split, opened, last, rfl⟩ := Stack.encryptedTo_sound told
  rw [split] at nested
  obtain ⟨outside, inner⟩ := nested.drop
  obtain ⟨usedKeys, r, received, jwe⟩ : o.With b options.allKeys ∧
      ∃ r, Jwe.parse outside = .ok r ∧ o.envelope.jwe = r.jwe := by
    cases inner with
    | layer opens _ => exact opens.encrypted_sound opened
  have listed : o.envelope.kids = r.kids := by
    rw [Jwe.Received.kids, jwe, Jwe.Received.kids]
  have anonymous := listed ▸ usedKeys.anonymous
  have authentic := listed ▸ usedKeys.authentic
  refine ⟨w, before, layer, o, after, outside, r, value, unwrapped, layers ▸ split, opened, last,
    inner, received, jwe, anonymous, authentic, ?_, ?_⟩
  · cases sender : o.sender with
    | none => simp [anonymous sender]
    | some key =>
        rw [authentic key sender, Keyring.heldOn_eq_held_iff]
        simp
  · intro demanded kid member
    obtain ⟨key, used, rfl⟩ := List.mem_map.mp member
    exact ⟨key, usedKeys.keys key used, usedKeys.each demanded key used⟩

theorem unpack_encryptedTo_invitation :
    ∃ text u w layer o, Agent.bob.unpack text { allKeys := true } = .ok u ∧
      u.metadata.encryptedTo = some ["did:example:bob#1"] ∧
      Agent.bob.unwrap { allKeys := true } text = .ok w ∧ layer ∈ w.layers ∧
      layer.opened? = some o ∧ ∃ key, Agent.bob.keyring.key "did:example:bob#1" = .ok key ∧
        o.envelope.decrypt o.sender key = .ok o.payload := by
  obtain ⟨payload, j, unpacked⟩ := Agent.unpack_hidden_invitation { allKeys := true }
  obtain ⟨w, before, layer, o, after, outside, r, value, unwrapped, split, opened, -, -, -, -, -, -,
    -, each⟩ := unpack_encryptedTo unpacked rfl
  exact ⟨j.text, _, w, layer, o, unpacked, rfl, unwrapped, by simp [split], opened,
    each rfl _ List.mem_cons_self⟩

end DidMessaging
