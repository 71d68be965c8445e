import DidMessaging.Proofs.Agent.Encrypted

namespace DidMessaging

/-- The metadata on an unpacked message are those of a stack of layers. -/
structure Stack.Describes (s : Stack) (u : Unpacked) : Prop where
  /-- Forward messages leave nothing but that there were some. -/
  kernel : u.metadata = { Metadata.ofLayers s.kernel with
    reWrapped := !s.forwards.isEmpty
    rotationKid := u.metadata.rotationKid
    rotationJwt := u.metadata.rotationJwt }
  encrypted : u.metadata.encrypted = (s.anon.isSome || s.auth.isSome)
  encryptedTo : u.metadata.encryptedTo.isSome = u.metadata.encrypted
  anonymousSender : u.metadata.anonymousSender = s.anon.isSome
  anonAlgorithm : u.metadata.anonAlgorithm.isSome = s.anon.isSome
  authAlgorithm : u.metadata.authAlgorithm.isSome = s.auth.isSome
  encryptedFrom : u.metadata.encryptedFrom.isSome = s.auth.isSome
  nonRepudiation : u.metadata.nonRepudiation = s.signed.isSome
  signFrom : u.metadata.signFrom.isSome = s.signed.isSome
  signAlgorithm : u.metadata.signAlgorithm.isSome = s.signed.isSome
  signedText : u.metadata.signedText.isSome = s.signed.isSome
  authenticated : u.metadata.authenticated = (s.auth.isSome || s.signed.isSome)
  reWrapped : u.metadata.reWrapped = !s.forwards.isEmpty
  rotationKid : u.metadata.rotationKid.isSome = u.message.rotation.isSome
  rotationJwt : u.metadata.rotationJwt.isSome = u.message.rotation.isSome

namespace Stack

theorem layers_kernel (s : Stack) : s.kernel = ({ s with forwards := [] } : Stack).layers := rfl

theorem metadata_kernel (s : Stack) :
    s.metadata = { Metadata.ofLayers s.kernel with reWrapped := !s.forwards.isEmpty } := by
  rw [layers_kernel, ofLayers_layers]
  rfl

/-- The metadata of a stack with or without a rotation. -/
theorem describes {a : Agent} {options : UnpackOptions} {s : Stack}
    (nested : Nested a options text s.layers value) (kid jwt : Option String)
    (metadata : u.metadata = { s.metadata with rotationKid := kid, rotationJwt := jwt })
    (kidSome : kid.isSome = u.message.rotation.isSome)
    (jwtSome : jwt.isSome = u.message.rotation.isSome) : s.Describes u where
  kernel := by rw [metadata, metadata_kernel]
  encrypted := by rw [metadata]; rfl
  encryptedTo := by
    rw [metadata]
    cases anon : s.anon <;> cases auth : s.auth <;> simp [Stack.metadata, anon, auth]
  anonymousSender := by rw [metadata]; rfl
  anonAlgorithm := by rw [metadata]; exact Option.isSome_map
  authAlgorithm := by rw [metadata]; exact Option.isSome_map
  encryptedFrom := by rw [metadata]; exact Option.isSome_map
  nonRepudiation := by rw [metadata]; rfl
  signFrom := by rw [metadata]; exact isSome_signer nested Prod.fst
  signAlgorithm := by rw [metadata]; exact isSome_signer nested Prod.snd
  signedText := by rw [metadata]; exact Option.isSome_map
  authenticated := by rw [metadata]; rfl
  reWrapped := by rw [metadata]; rfl
  rotationKid := by rw [metadata]; exact kidSome
  rotationJwt := by rw [metadata]; exact jwtSome

theorem asked_of_forwards {a : Agent} {options : UnpackOptions} {s : Stack}
    (nested : Nested a options text s.layers value) (forwarded : s.forwards ≠ []) :
    options.unwrapForward = true := by
  obtain ⟨⟨algorithm, o⟩, member⟩ := List.exists_mem_of_ne_nil _ forwarded
  have layer : Layer.forward algorithm o ∈ s.layers := by
    rw [Stack.layers, List.mem_append]
    exact .inl (List.mem_map_of_mem member)
  obtain ⟨outside, inside, opens⟩ := nested.opens_of_mem layer
  cases opens with
  | forward received found opened inside asked toUs => exact asked

theorem describes_unpacked {a : Agent} {options : UnpackOptions} {s : Stack}
    (nested : Nested a options text s.layers value) (layers : s.layers = w.layers)
    (read : Message.ofWire value = .ok (w.message, w.proof))
    (settled : a.settleRotation w = .ok u) : s.Describes u := by
  have noRotation := Message.rotation_of_ofWire read
  rcases Agent.settleRotation_sound settled with ⟨-, rfl⟩ | ⟨jwt, kid, r, -, -, -, rfl⟩
  · refine describes nested none none ?_ ?_ ?_
    · rw [← layers, ofLayers_layers]
      rfl
    · rw [noRotation]
      rfl
    · rw [noRotation]
      rfl
  · refine describes nested (some kid) (some jwt) ?_ rfl rfl
    rw [← layers, ofLayers_layers]

end Stack

/-- What is unpacked was a stack of layers around a plaintext message, and the metadata are those
of the layers; a text whose layers are no stack is refused. -/
theorem unpack_stack (a : Agent) (options : UnpackOptions) (text : String) :
    (∀ u, a.unpack text options = .ok u →
      ∃ (w : Unwrapped) (s : Stack) (value : Json),
        a.unwrap options text = .ok w ∧ w.layers = s.layers ∧
        Nested a options text s.layers value ∧ Message.ofWire value = .ok (w.message, w.proof) ∧
        (∀ layers other, Nested a options text layers other → layers = s.layers) ∧
        (s.forwards ≠ [] → options.unwrapForward = true) ∧ s.Describes u) ∧
    (∀ layers value, Nested a options text layers value → (∀ s : Stack, s.layers ≠ layers) →
      ∃ e, a.unpack text options = .error e) := by
  constructor
  · intro u unpacked
    obtain ⟨w, unwrapped, settled, -, -⟩ := Agent.unpack_eq_ok_iff.mp unpacked
    obtain ⟨s, value, layers, nested, read⟩ := Agent.unwrap_sound unwrapped
    refine ⟨w, s, value, unwrapped, layers.symm, nested, read, ?_, s.asked_of_forwards nested,
      Stack.describes_unpacked nested layers read settled⟩
    intro others other othersNested
    exact (othersNested.unique nested).1
  · intro layers value nested disordered
    cases unpacked : a.unpack text options with
    | error e => exact ⟨e, rfl⟩
    | ok u =>
        obtain ⟨w, unwrapped, -⟩ := Agent.unpack_eq_ok_iff.mp unpacked
        obtain ⟨s, other, -, stackNested, -⟩ := Agent.unwrap_sound unwrapped
        exact absurd (stackNested.unique nested).1 (disordered s)

theorem unpack_stack_invitation :
    ∃ text u s, Agent.bob.unpack text {} = .ok u ∧ Stack.Describes s u ∧
      s.auth.isSome = true ∧ s.signed.isSome = true := by
  obtain ⟨text, u, unpacked, -, -, encryptedFrom, signFrom⟩ := Agent.exists_unpack_invitation
  obtain ⟨w, s, value, -, -, -, -, -, -, describes⟩ :=
    (unpack_stack Agent.bob {} text).1 u unpacked
  refine ⟨text, u, s, unpacked, describes, ?_, ?_⟩
  · rw [← describes.encryptedFrom, encryptedFrom]
    rfl
  · rw [← describes.signFrom, signFrom]
    rfl

end DidMessaging
