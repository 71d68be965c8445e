import DidMessaging.Agent.Unpacking

namespace DidMessaging

structure Stack where
  forwards : List (AnonAlgorithm × Opened) := []
  anon : Option (AnonAlgorithm × Opened) := none
  auth : Option (AuthAlgorithm × String × Opened) := none
  signed : Option (String × Jws × List (String × SignatureAlgorithm)) := none

/-- The layers that may follow what was removed last. -/
def Outer.Admits : Outer → Layer → Prop
  | outer, .forward _ _ => outer = .nothing
  | outer, .anon _ _ => outer = .nothing
  | outer, .auth _ _ _ => outer ≠ .auth
  | _, .signed _ _ _ => True

namespace Layer

def isSigned : Layer → Bool
  | .signed _ _ _ => true
  | _ => false

/-- What an encrypted layer was opened to. -/
def opened? : Layer → Option Opened
  | .forward _ o => some o
  | .anon _ o => some o
  | .auth _ _ o => some o
  | .signed _ _ _ => none

/-- What was removed last inside of an encrypted envelope. -/
def outer : Layer → Outer
  | .forward _ _ => .nothing
  | .anon _ _ => .anon
  | .auth _ _ _ => .auth
  | .signed _ _ _ => .auth

end Layer

namespace Stack

/-- The layers after the last forward message. -/
def kernel (s : Stack) : List Layer :=
  (s.anon.map fun (a, o) => .anon a o).toList
    ++ (s.auth.map fun (a, sender, o) => .auth a sender o).toList
    ++ (s.signed.map fun (text, j, signers) => .signed text j signers).toList

def layers (s : Stack) : List Layer :=
  s.forwards.map (fun (a, o) => .forward a o) ++ s.kernel

/-- What may still come inside of what was removed last. -/
def Within (s : Stack) : Outer → Prop
  | .nothing => True
  | .anon => s.forwards = [] ∧ s.anon = none
  | .auth => s.forwards = [] ∧ s.anon = none ∧ s.auth = none

/-- Puts a layer around a stack; one that was there in its place is lost. -/
def push (s : Stack) : Layer → Stack
  | .forward a o => { s with forwards := (a, o) :: s.forwards }
  | .anon a o => { s with anon := some (a, o) }
  | .auth a sender o => { s with auth := some (a, sender, o) }
  | .signed text j signers => { s with signed := some (text, j, signers) }

theorem kernel_length_le (s : Stack) : s.kernel.length ≤ 3 := by
  obtain ⟨forwards, anon, auth, signed⟩ := s
  cases anon <;> cases auth <;> cases signed <;> simp [kernel]

/-! A stack cut at one of its layers. -/

theorem layers_of_auth {s : Stack} (auth : s.auth = some (algorithm, sender, o)) :
    s.layers = ({ s with auth := none, signed := none } : Stack).layers
      ++ .auth algorithm sender o :: ({ signed := s.signed } : Stack).layers := by
  simp [layers, kernel, auth]

theorem layers_of_anon {s : Stack} (anon : s.anon = some (algorithm, o)) (noAuth : s.auth = none) :
    s.layers = ({ s with anon := none, signed := none } : Stack).layers
      ++ .anon algorithm o :: ({ signed := s.signed } : Stack).layers := by
  simp [layers, kernel, anon, noAuth]

theorem layers_of_signed {s : Stack} (signed : s.signed = some (text, j, signers)) :
    s.layers = ({ s with signed := none } : Stack).layers ++ [.signed text j signers] := by
  simp [layers, kernel, signed]

/-! Layers around a stack. -/

theorem within_empty (outer : Outer) : ({} : Stack).Within outer := by
  cases outer <;> simp [Within]

theorem layers_push {s : Stack} (encrypted : layer.isSigned = false)
    (within : s.Within layer.outer) : (s.push layer).layers = layer :: s.layers := by
  cases layer with
  | signed text j signers => contradiction
  | forward a o => rfl
  | anon a o =>
      obtain ⟨noForwards, noAnon⟩ := within
      simp [push, layers, kernel, noForwards, noAnon]
  | auth a sender o =>
      obtain ⟨noForwards, noAnon, noAuth⟩ := within
      simp [push, layers, kernel, noForwards, noAnon, noAuth]

theorem within_push {s : Stack} (encrypted : layer.isSigned = false) (admits : outer.Admits layer)
    (within : s.Within layer.outer) : (s.push layer).Within outer := by
  cases layer with
  | signed text j signers => contradiction
  | forward a o =>
      obtain rfl : outer = .nothing := admits
      trivial
  | anon a o =>
      obtain rfl : outer = .nothing := admits
      trivial
  | auth a sender o =>
      obtain ⟨noForwards, noAnon, noAuth⟩ := within
      cases outer with
      | nothing => trivial
      | anon => exact ⟨noForwards, noAnon⟩
      | auth => exact absurd rfl admits

theorem layers_eq_cons {s : Stack} (split : s.layers = layer :: rest) (within : s.Within outer) :
    if layer.isSigned then rest = [] else
      outer.Admits layer ∧ ∃ inner : Stack, inner.layers = rest ∧ inner.Within layer.outer := by
  obtain ⟨forwards, anon, auth, signed⟩ := s
  match forwards, anon, auth, signed with
  | (a, o) :: forwards, anon, auth, signed =>
      obtain ⟨rfl, rfl⟩ := List.cons.inj split
      cases outer with
      | nothing => exact ⟨rfl, ⟨forwards, anon, auth, signed⟩, rfl, trivial⟩
      | anon => exact absurd within.1 (List.cons_ne_nil _ _)
      | auth => exact absurd within.1 (List.cons_ne_nil _ _)
  | [], some (a, o), auth, signed =>
      obtain ⟨rfl, rfl⟩ := List.cons.inj split
      cases outer with
      | nothing => exact ⟨rfl, ⟨[], none, auth, signed⟩, rfl, rfl, rfl⟩
      | anon => exact absurd within.2 (Option.some_ne_none _)
      | auth => exact absurd within.2.1 (Option.some_ne_none _)
  | [], none, some (a, sender, o), signed =>
      obtain ⟨rfl, rfl⟩ := List.cons.inj split
      refine ⟨?_, ⟨[], none, none, signed⟩, rfl, rfl, rfl, rfl⟩
      rintro rfl
      exact absurd within.2.2 (Option.some_ne_none _)
  | [], none, none, some (text, j, signers) =>
      obtain ⟨rfl, rfl⟩ := List.cons.inj split
      rfl
  | [], none, none, none => exact absurd split.symm (List.cons_ne_nil _ _)

/-! The metadata of a stack. -/

/-- The metadata that the layers after the last forward message give, written out. -/
def metadata (s : Stack) : Metadata where
  encrypted := s.anon.isSome || s.auth.isSome
  authenticated := s.auth.isSome || s.signed.isSome
  nonRepudiation := s.signed.isSome
  anonymousSender := s.anon.isSome
  reWrapped := !s.forwards.isEmpty
  encryptedTo := (s.auth.map (·.2.2.kids)).or (s.anon.map (·.2.kids))
  encryptedFrom := s.auth.map (·.2.1)
  signFrom := s.signed.bind fun (_, _, signers) => signers.head?.map Prod.fst
  authAlgorithm := s.auth.map (·.1)
  anonAlgorithm := s.anon.map (·.1)
  signAlgorithm := s.signed.bind fun (_, _, signers) => signers.head?.map Prod.snd
  signedText := s.signed.map (·.1)

/-- A forward message leaves nothing of what was known before it. -/
theorem foldl_add_forwards (forwards : List (AnonAlgorithm × Opened)) (before : Metadata) :
    (forwards.map fun (a, o) => Layer.forward a o).foldl Metadata.add before =
      if forwards.isEmpty then before else { reWrapped := true } := by
  induction forwards generalizing before with
  | nil => rfl
  | cons forward rest ih =>
      rw [List.map_cons, List.foldl_cons, ih]
      cases rest <;> rfl

theorem ofLayers_layers (s : Stack) : Metadata.ofLayers s.layers = s.metadata := by
  rw [Metadata.ofLayers, layers, List.foldl_append, foldl_add_forwards]
  obtain ⟨forwards, anon, auth, signed⟩ := s
  cases forwards <;> cases anon <;> cases auth <;> cases signed <;> rfl

end Stack

end DidMessaging
