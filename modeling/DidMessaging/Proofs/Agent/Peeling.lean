import DidMessaging.Proofs.Agent.Termination

namespace DidMessaging

open Result

/-! The metadata after a forward message. -/

namespace Metadata

def reWrap (d : Metadata) : Metadata := { d with reWrapped := true }

theorem add_reWrap (d : Metadata) (layer : Layer) : d.reWrap.add layer = (d.add layer).reWrap := by
  cases layer <;> rfl

theorem foldl_add_reWrap (d : Metadata) (layers : List Layer) :
    layers.foldl add d.reWrap = (layers.foldl add d).reWrap := by
  induction layers generalizing d with
  | nil => rfl
  | cons layer layers ih => rw [List.foldl_cons, List.foldl_cons, add_reWrap, ih]

theorem ofLayers_forward (a : AnonAlgorithm) (o : Opened) (layers : List Layer) :
    ofLayers (.forward a o :: layers) = (ofLayers layers).reWrap :=
  foldl_add_reWrap {} layers

end Metadata

def Unpacked.reWrap (u : Unpacked) : Unpacked := { u with metadata := u.metadata.reWrap }

namespace Agent

theorem settleRotation_forward (a : Agent) (algorithm : AnonAlgorithm) (o : Opened)
    (w : Unwrapped) :
    a.settleRotation (w.push (.forward algorithm o)) = (a.settleRotation w).map .reWrap := by
  unfold settleRotation Unwrapped.push
  rw [Metadata.ofLayers_forward]
  dsimp only
  cases w.proof with
  | none => rfl
  | some jwt =>
      dsimp only
      cases a.checkProof jwt with
      | error e => rfl
      | ok found =>
          simp only [bind, Except.bind]
          split <;> rfl

/-! What unwrapping forward messages changes. -/

/-- Inside of an envelope that is none of a forward message there is nothing to ask the options
for. -/
theorem unwrapFrom_inside (a : Agent) (all : Bool) (fuel : Nat) {outer : Outer} (text : String)
    (inside : outer ≠ .nothing) :
    a.unwrapFrom ⟨all, true⟩ fuel outer text = a.unwrapFrom ⟨all, false⟩ fuel outer text := by
  induction fuel generalizing outer text with
  | zero => rfl
  | succ fuel ih =>
      cases received : Envelope.ofText text with
      | error e => simp only [unwrapFrom, received, Fuelled.lift_error_bind]
      | ok envelope =>
          cases envelope with
          | plain value | signed j => simp only [unwrapFrom, received, Fuelled.lift_ok_bind]
          | encrypted r =>
              simp only [unwrapFrom, received, Fuelled.lift_ok_bind]
              cases r.algorithm with
              | error e => simp only [Fuelled.lift_error_bind]
              | ok algorithm =>
                  simp only [Fuelled.lift_ok_bind]
                  cases algorithm with
                  | anon anonAlgorithm =>
                      -- The only place to ask the options is not reached from in here.
                      have refused :
                          a.openAnon all outer r = .error (.malformed .anoncryptInside) :=
                        if_pos inside
                      simp only [refused, Fuelled.lift_error_bind]
                  | auth authAlgorithm =>
                      have same (content : String) := ih content (by decide : Outer.auth ≠ .nothing)
                      simp only [same]

/-- A text without a sender was opened, outside of all other envelopes. -/
structure Anonymous (a : Agent) (all : Bool) (text : String) (algorithm : AnonAlgorithm)
    (o : Opened) (inner : String) : Prop where
  intro ::
  opened : ∃ r, Envelope.ofText text = .ok (.encrypted r) ∧ r.algorithm = .ok (.anon algorithm) ∧
    a.openAnon all .nothing r = .ok o
  inside : payloadText o.payload = .ok inner

theorem unwrapFrom_anonymous {a : Agent} {inner : String} (options : UnpackOptions)
    (anonymous : Anonymous a options.allKeys text algorithm o inner) (fuel : Nat) :
    a.unwrapFrom options (fuel + 1) .nothing text = (do
      match ← a.carriedOn? options inner with
      | some carried =>
        let w ← a.unwrapFrom options fuel .nothing carried
        return w.push (.forward algorithm o)
      | none =>
        let w ← a.unwrapFrom options fuel .anon inner
        return w.push (.anon algorithm o)) := by
  obtain ⟨⟨r, received, found, opened⟩, inside⟩ := anonymous
  simp only [unwrapFrom, received, found, opened, inside, Fuelled.lift_ok_bind]
  rfl

/-- Goes on with what was in an envelope without a sender. -/
def unwrapContent (a : Agent) (options : UnpackOptions) (algorithm : AnonAlgorithm) (o : Opened) :
    Result Unwrapped := do
  let inner ← payloadText o.payload
  match ← a.carriedOn? options inner with
  | some carried =>
    (a.unwrapInside options .nothing carried).map (.push (.forward algorithm o))
  | none => (a.unwrapInside options .anon inner).map (.push (.anon algorithm o))

theorem unwrapContent_eq {a : Agent} {inner : String} (inside : payloadText o.payload = .ok inner)
    (options : UnpackOptions) :
    a.unwrapContent options algorithm o = (do
      match ← a.carriedOn? options inner with
      | some carried =>
        (a.unwrapInside options .nothing carried).map (.push (.forward algorithm o))
      | none => (a.unwrapInside options .anon inner).map (.push (.anon algorithm o))) := by
  rw [unwrapContent, inside]
  rfl

/-- A message in the clear that is not gone on with ends the unwrapping. -/
theorem unwrapContent_of_plain {a : Agent} {inner : String} {options : UnpackOptions}
    (inside : payloadText o.payload = .ok inner) (stays : a.carriedOn? options inner = .ok none)
    (received : Envelope.ofText inner = .ok (.plain value))
    (read : Message.ofWire value = .ok (m, proof)) :
    a.unwrapContent options algorithm o = .ok ⟨[.anon algorithm o], m, proof⟩ := by
  have unwrapped : a.unwrapInside options .anon inner = .ok ⟨[], m, proof⟩ := by
    simp only [unwrapInside, layerLimit, unwrapFrom, received, Fuelled.lift_ok_bind, read]
    rfl
  rw [unwrapContent_eq inside, stays]
  dsimp only [bind, Except.bind]
  rw [unwrapped]
  rfl

theorem unwrap_anonymous {a : Agent} {text inner : String} (options : UnpackOptions)
    (anonymous : Anonymous a options.allKeys text algorithm o inner) :
    a.unwrap options text = a.unwrapContent options algorithm o := by
  obtain ⟨⟨r, received, named, opened⟩, inside⟩ := id anonymous
  refine Option.some.inj ?_
  rw [← a.unwrap_eq options (Nat.lt_succ_self (burden text)),
    unwrapFrom_anonymous options anonymous, unwrapContent_eq inside]
  cases carries : a.carriedOn? options inner with
  | error e => rfl
  | ok carriedOn =>
      rw [Fuelled.lift_ok_bind]
      cases carriedOn with
      | none =>
          have calls : Calls a options (.nothing, text) (.anon algorithm o) (.anon, inner) :=
            .inside (.anon received named opened inside carries) rfl rfl
          dsimp only
          rw [Fuelled.bind_pure_run, a.unwrapInside_eq options .anon calls.burden_lt,
            Option.map_some]
          rfl
      | some carried =>
          obtain ⟨asked, toUs⟩ := carriedOn?_eq_some_iff.mp carries
          have calls : Calls a options (.nothing, text) (.forward algorithm o)
              (.nothing, carried) :=
            .inside (.forward received named opened inside asked toUs) rfl rfl
          dsimp only
          rw [Fuelled.bind_pure_run, a.unwrapInside_eq options .nothing calls.burden_lt,
            Option.map_some]
          rfl

theorem unwrapFrom_of_not_anonymous {a : Agent} {text : String}
    (none_ : ∀ algorithm o inner, ¬Anonymous a all text algorithm o inner) (fuel : Nat) :
    a.unwrapFrom ⟨all, true⟩ (fuel + 1) .nothing text =
      a.unwrapFrom ⟨all, false⟩ (fuel + 1) .nothing text := by
  cases received : Envelope.ofText text with
  | error e => simp only [unwrapFrom, received, Fuelled.lift_error_bind]
  | ok envelope =>
      cases envelope with
      | plain value | signed j => simp only [unwrapFrom, received, Fuelled.lift_ok_bind]
      | encrypted r =>
          cases found : r.algorithm with
          | error e =>
              simp only [unwrapFrom, received, found, Fuelled.lift_ok_bind, Fuelled.lift_error_bind]
          | ok algorithm =>
              cases algorithm with
              | auth authAlgorithm =>
                  have same (content : String) :=
                    a.unwrapFrom_inside all fuel content (by decide : Outer.auth ≠ .nothing)
                  simp only [unwrapFrom, received, found, Fuelled.lift_ok_bind, same]
              | anon anonAlgorithm =>
                  simp only [unwrapFrom, received, found, Fuelled.lift_ok_bind]
                  cases opened : a.openAnon all .nothing r with
                  | error e => simp only [Fuelled.lift_error_bind]
                  | ok o =>
                      simp only [Fuelled.lift_ok_bind]
                      cases inside : payloadText o.payload with
                      | error e => simp only [Fuelled.lift_error_bind]
                      | ok inner =>
                          have anonymous : Anonymous a all text anonAlgorithm o inner :=
                            ⟨⟨r, received, found, opened⟩, inside⟩
                          exact absurd anonymous (none_ _ _ _)

theorem unpackForward_eq_ok_iff {a : Agent} {options : UnpackOptions} :
    a.unpackForward text options = .ok f ↔
      ∃ algorithm o inner value m proof forward,
        Anonymous a options.allKeys text algorithm o inner ∧
        Envelope.ofText inner = .ok (.plain value) ∧ Message.ofWire value = .ok (m, proof) ∧
        Forward.ofMessage? m = some forward ∧
        f = ⟨m, forward.next, forward.carried.text, o.kids⟩ := by
  constructor
  · intro unpacked
    unfold unpackForward at unpacked
    obtain ⟨envelope, received, unpacked⟩ := bind_eq_ok_iff.mp unpacked
    cases envelope with
    | plain value => simp at unpacked
    | signed j => simp at unpacked
    | encrypted r =>
        obtain ⟨algorithm, found, unpacked⟩ := bind_eq_ok_iff.mp unpacked
        cases algorithm with
        | auth authAlgorithm => simp at unpacked
        | anon anonAlgorithm =>
            obtain ⟨o, opened, unpacked⟩ := bind_eq_ok_iff.mp unpacked
            obtain ⟨inner, inside, unpacked⟩ := bind_eq_ok_iff.mp unpacked
            obtain ⟨envelope, innerReceived, unpacked⟩ := bind_eq_ok_iff.mp unpacked
            cases envelope with
            | encrypted r => simp at unpacked
            | signed j => simp at unpacked
            | plain value =>
                obtain ⟨⟨m, proof⟩, read, unpacked⟩ := bind_eq_ok_iff.mp unpacked
                cases forward : Forward.ofMessage? m with
                | none => simp [forward] at unpacked
                | some found' =>
                    simp only [forward] at unpacked
                    obtain rfl := pure_eq_ok_iff.mp unpacked
                    exact ⟨anonAlgorithm, o, inner, value, m, proof, found',
                      ⟨⟨r, received, found, opened⟩, inside⟩, innerReceived, read, forward, rfl⟩
  · rintro ⟨algorithm, o, inner, value, m, proof, forward, ⟨⟨r, received, found, opened⟩, inside⟩,
      innerReceived, read, isForward, rfl⟩
    unfold unpackForward
    refine bind_eq_ok_iff.mpr ⟨_, received, bind_eq_ok_iff.mpr ⟨_, found, ?_⟩⟩
    refine bind_eq_ok_iff.mpr ⟨_, opened, bind_eq_ok_iff.mpr ⟨_, inside, ?_⟩⟩
    refine bind_eq_ok_iff.mpr ⟨_, innerReceived, bind_eq_ok_iff.mpr ⟨_, read, ?_⟩⟩
    simp only [isForward]
    rfl

/-- With what is in memory the question whether a forward message is for the agent has an answer. -/
theorem exists_isNext (documents : List Document) (keyring : Keyring) (next : String) :
    ∃ held, (⟨.ofDocuments documents, keyring⟩ : Agent).isNext next = .ok held := by
  have resolves (did : String) : (Directory.ofDocuments documents).resolve did =
      .ok (documents.find? (·.id = did)) := rfl
  unfold isNext
  split
  · exact ⟨_, rfl⟩
  · rw [resolves]
    cases documents.find? (·.id = next) with
    | none => exact ⟨_, rfl⟩
    | some doc => exact ⟨_, rfl⟩

/-- When it cannot be told what a text carries, then because it is none that can be unwrapped. -/
theorem unwrapFrom_of_carriedToUs?_error {a : Agent} {options : UnpackOptions} {text : String}
    (answers : ∀ next, ∃ held, a.isNext next = .ok held)
    (carries : a.carriedToUs? text = .error e) (fuel : Nat) (outer : Outer) :
    a.unwrapFrom options (fuel + 1) outer text = liftM (.error e : Result Unwrapped) := by
  unfold carriedToUs? at carries
  cases received : Envelope.ofText text with
  | error e' =>
      rw [received] at carries
      obtain rfl := Except.error.inj carries
      simp only [unwrapFrom, received, Fuelled.lift_error_bind]
  | ok envelope =>
      rw [received] at carries
      cases envelope with
      | encrypted r => exact absurd carries (by simp [bind, Except.bind, pure, Except.pure])
      | signed j => exact absurd carries (by simp [bind, Except.bind, pure, Except.pure])
      | plain value =>
          cases read : Message.ofWire value with
          | error e' =>
              simp only [read, bind, Except.bind] at carries
              obtain rfl := Except.error.inj carries
              simp only [unwrapFrom, received, read, Fuelled.lift_ok_bind, Fuelled.lift_error_bind]
          | ok found =>
              simp only [read, bind, Except.bind] at carries
              cases forward : Forward.ofMessage? found.1 with
              | none => simp [forward, pure, Except.pure] at carries
              | some f =>
                  obtain ⟨held, next⟩ := answers f.next
                  simp only [forward, next] at carries
                  cases held <;> simp [pure, Except.pure] at carries

theorem unwrap_peeled {a : Agent} {text : String}
    (unpacked : a.unpackForward text ⟨all, true⟩ = .ok f) (toUs : a.isNext f.next = .ok true) :
    ∃ algorithm o, a.unwrap ⟨all, true⟩ text =
      (a.unwrap ⟨all, true⟩ f.carried).map (.push (.forward algorithm o)) := by
  obtain ⟨algorithm, o, inner, value, m, proof, forward, anonymous, received, read, isForward,
    rfl⟩ := unpackForward_eq_ok_iff.mp unpacked
  have forwardToUs : ForwardToUs a inner forward.carried.text :=
    ⟨value, m, proof, forward, received, read, isForward, toUs, rfl⟩
  have carries : a.carriedOn? ⟨all, true⟩ inner = .ok (some forward.carried.text) :=
    carriedOn?_eq_some_iff.mpr ⟨rfl, forwardToUs⟩
  refine ⟨algorithm, o, ?_⟩
  rw [unwrap_anonymous ⟨all, true⟩ anonymous, unwrapContent_eq anonymous.inside, carries]
  rfl

theorem unwrap_unpeeled {a : Agent} {text : String}
    (answers : ∀ next, ∃ held, a.isNext next = .ok held)
    (notToUs : ∀ f, a.unpackForward text ⟨all, true⟩ = .ok f → a.isNext f.next ≠ .ok true) :
    a.unwrap ⟨all, true⟩ text = a.unwrap ⟨all, false⟩ text := by
  have enough : burden text < burden text + 1 + 1 := by omega
  refine Option.some.inj ?_
  rw [← a.unwrap_eq ⟨all, true⟩ enough, ← a.unwrap_eq ⟨all, false⟩ enough]
  by_cases some_ : ∃ algorithm o inner, Anonymous a all text algorithm o inner
  · obtain ⟨algorithm, o, inner, anonymous⟩ := some_
    have asked := unwrapFrom_anonymous ⟨all, true⟩ anonymous (burden text + 1)
    have notAsked := unwrapFrom_anonymous ⟨all, false⟩ anonymous (burden text + 1)
    have notCarried : a.carriedOn? ⟨all, false⟩ inner = .ok none := rfl
    have sameQuestion : a.carriedOn? ⟨all, true⟩ inner = a.carriedToUs? inner := rfl
    rw [asked, notAsked, notCarried, sameQuestion, Fuelled.lift_ok_bind]
    dsimp only
    cases carries : a.carriedToUs? inner with
    | error e =>
        rw [Fuelled.lift_error_bind, unwrapFrom_of_carriedToUs?_error answers carries,
          Fuelled.lift_error_bind]
    | ok carried =>
        cases carried with
        | none =>
            rw [Fuelled.lift_ok_bind,
              a.unwrapFrom_inside all (burden text + 1) inner (by decide : Outer.anon ≠ .nothing)]
        | some carried =>
            obtain ⟨value, m, proof, forward, received, read, isForward, toUs, -⟩ :=
              carriedToUs?_sound carries
            refine absurd toUs (notToUs ⟨m, forward.next, forward.carried.text, o.kids⟩ ?_)
            exact unpackForward_eq_ok_iff.mpr ⟨algorithm, o, inner, value, m, proof, forward,
              anonymous, received, read, isForward, rfl⟩
  · have none_ : ∀ algorithm o inner, ¬Anonymous a all text algorithm o inner :=
      fun algorithm o inner anonymous => some_ ⟨algorithm, o, inner, anonymous⟩
    rw [unwrapFrom_of_not_anonymous none_]

/-! Unpacking. -/

theorem unpack_of_push_forward {a : Agent} {text carried : String} {options : UnpackOptions}
    (unwrapped : a.unwrap options text =
      (a.unwrap options carried).map (.push (.forward algorithm o))) :
    a.unpack text options = (a.unpack carried options).map .reWrap := by
  unfold unpack
  rw [unwrapped]
  cases a.unwrap options carried with
  | error e => rfl
  | ok w =>
      have settled := a.settleRotation_forward algorithm o w
      simp only [Except.map, bind, Except.bind] at settled ⊢
      rw [settled]
      cases a.settleRotation w with
      | error e => rfl
      | ok u =>
          simp only [Unpacked.reWrap, Metadata.reWrap]
          cases checkSender u.message u.metadata.encryptedFrom .encryptedBy with
          | error e => rfl
          | ok _ => cases checkSender u.message u.metadata.signFrom .signedBy <;> rfl

/-- Unpacking a forward message to the agent itself is to unpack what it carries and to note where
that was. On all other texts unwrapping makes no difference. -/
theorem unpack_peels (documents : List Document) (keyring : Keyring) (all : Bool) (text : String) :
    let a : Agent := ⟨.ofDocuments documents, keyring⟩
    a.unpack text ⟨all, true⟩ =
      match a.unpackForward text ⟨all, true⟩ with
      | .ok f =>
        match a.isNext f.next with
        | .ok true => (a.unpack f.carried ⟨all, true⟩).map .reWrap
        | _ => a.unpack text ⟨all, false⟩
      | .error _ => a.unpack text ⟨all, false⟩ := by
  intro a
  have answers : ∀ next, ∃ held, a.isNext next = .ok held := exists_isNext documents keyring
  have unpeeled (notToUs : ∀ f, a.unpackForward text ⟨all, true⟩ = .ok f →
      a.isNext f.next ≠ .ok true) : a.unpack text ⟨all, true⟩ = a.unpack text ⟨all, false⟩ := by
    rw [unpack, unpack, unwrap_unpeeled answers notToUs]
  cases unpacked : a.unpackForward text ⟨all, true⟩ with
  | error e => exact unpeeled fun f found => by rw [unpacked] at found; contradiction
  | ok f =>
      obtain ⟨held, next⟩ := answers f.next
      dsimp only
      rw [next]
      cases held with
      | true =>
          obtain ⟨algorithm, o, unwrapped⟩ := unwrap_peeled unpacked next
          exact unpack_of_push_forward unwrapped
      | false =>
          refine unpeeled fun f' found => ?_
          obtain rfl := Except.ok.inj (unpacked.symm.trans found)
          rw [next]
          simp

end Agent

end DidMessaging
