import DidMessaging.Proofs.Agent.Stack
import DidMessaging.Proofs.Result

namespace DidMessaging

/-- A plaintext forward message to the agent itself, and the text that it carries. -/
def ForwardToUs (a : Agent) (text carried : String) : Prop :=
  ∃ value m proof f, Envelope.ofText text = .ok (.plain value) ∧
    Message.ofWire value = .ok (m, proof) ∧ Forward.ofMessage? m = some f ∧
    a.isNext f.next = .ok true ∧ f.carried.text = carried

/-- One envelope of any kind, as it is removed, and the text that was in it. -/
inductive Opens (a : Agent) (options : UnpackOptions) (text : String) : Layer → String → Prop
  | signed (received : Envelope.ofText text = .ok (.signed j))
      (checked : a.checkSignatures j = .ok signers) (decoded : j.decodePayload = .ok payload)
      (inside : payloadText payload = .ok content) :
      Opens a options text (.signed text j signers) content
  | auth (received : Envelope.ofText text = .ok (.encrypted r))
      (algorithm : r.algorithm = .ok (.auth authAlgorithm))
      (opened : a.openAuth options.allKeys .nothing r = .ok (sender, o))
      (inside : payloadText o.payload = .ok content) :
      Opens a options text (.auth authAlgorithm sender o) content
  | anon (received : Envelope.ofText text = .ok (.encrypted r))
      (algorithm : r.algorithm = .ok (.anon anonAlgorithm))
      (opened : a.openAnon options.allKeys .nothing r = .ok o)
      (inside : payloadText o.payload = .ok content)
      (stays : a.carriedOn? options content = .ok none) :
      Opens a options text (.anon anonAlgorithm o) content
  | forward (received : Envelope.ofText text = .ok (.encrypted r))
      (algorithm : r.algorithm = .ok (.anon anonAlgorithm))
      (opened : a.openAnon options.allKeys .nothing r = .ok o)
      (inside : payloadText o.payload = .ok content)
      (asked : options.unwrapForward = true) (toUs : ForwardToUs a content carried) :
      Opens a options text (.forward anonAlgorithm o) carried

/-- The layers of a text down to a plaintext message, each of any kind. -/
inductive Nested (a : Agent) (options : UnpackOptions) : String → List Layer → Json → Prop
  | plain (received : Envelope.ofText text = .ok (.plain value)) : Nested a options text [] value
  | layer (opens : Opens a options text layer content)
      (nested : Nested a options content layers value) :
      Nested a options text (layer :: layers) value

/-! What a forward message carries. -/

namespace Agent

open Result

theorem carriedToUs?_sound {a : Agent} (carries : a.carriedToUs? text = .ok (some carried)) :
    ForwardToUs a text carried := by
  unfold carriedToUs? at carries
  obtain ⟨envelope, received, carries⟩ := bind_eq_ok_iff.mp carries
  cases envelope with
  | encrypted r => simp at carries
  | signed j => simp at carries
  | plain value =>
      obtain ⟨⟨m, proof⟩, read, carries⟩ := bind_eq_ok_iff.mp carries
      cases forward : Forward.ofMessage? m with
      | none => simp [forward] at carries
      | some f =>
          simp only [forward] at carries
          obtain ⟨toUs, next, carries⟩ := bind_eq_ok_iff.mp carries
          cases toUs with
          | false => simp at carries
          | true =>
              have carriedText : f.carried.text = carried := by simpa using carries
              exact ⟨value, m, proof, f, received, read, forward, next, carriedText⟩

theorem carriedToUs?_complete {a : Agent} (toUs : ForwardToUs a text carried) :
    a.carriedToUs? text = .ok (some carried) := by
  obtain ⟨value, m, proof, f, received, read, forward, next, carriedText⟩ := toUs
  unfold carriedToUs?
  refine bind_eq_ok_iff.mpr ⟨_, received, bind_eq_ok_iff.mpr ⟨_, read, ?_⟩⟩
  simp only [forward]
  refine bind_eq_ok_iff.mpr ⟨_, next, ?_⟩
  simp [carriedText]

theorem carriedToUs?_eq_some_iff {a : Agent} :
    a.carriedToUs? text = .ok (some carried) ↔ ForwardToUs a text carried :=
  ⟨carriedToUs?_sound, carriedToUs?_complete⟩

theorem carriedOn?_eq_some_iff {a : Agent} {options : UnpackOptions} :
    a.carriedOn? options text = .ok (some carried) ↔
      options.unwrapForward = true ∧ ForwardToUs a text carried := by
  unfold carriedOn?
  cases options.unwrapForward with
  | false => simp
  | true => simp [carriedToUs?_eq_some_iff]

end Agent

/-! A text has one nesting at most. -/

theorem Opens.unique {a : Agent} {options : UnpackOptions} (first : Opens a options text l content)
    (second : Opens a options text l' content') : l = l' ∧ content = content' := by
  cases first <;> cases second <;>
    simp_all [← Agent.carriedToUs?_eq_some_iff, Agent.carriedOn?]

theorem Nested.unique {a : Agent} {options : UnpackOptions} (first : Nested a options text ls v)
    (second : Nested a options text ls' v') : ls = ls' ∧ v = v' := by
  induction first generalizing ls' v' with
  | plain received =>
      cases second with
      | plain received' => simp_all
      | layer opens nested => cases opens <;> simp_all
  | layer opens nested ih =>
      cases second with
      | plain received' => cases opens <;> simp_all
      | layer opens' nested' =>
          obtain ⟨rfl, rfl⟩ := opens.unique opens'
          obtain ⟨rfl, rfl⟩ := ih nested'
          exact ⟨rfl, rfl⟩

theorem Nested.imp {a b : Agent} {options options' : UnpackOptions}
    (nested : Nested a options text layers value)
    (opens : ∀ layer ∈ layers, ∀ outside inside, Opens a options outside layer inside →
      Opens b options' outside layer inside) :
    Nested b options' text layers value := by
  induction nested with
  | plain received => exact .plain received
  | layer first nested ih =>
      have again := opens _ List.mem_cons_self _ _ first
      apply Nested.layer again
      apply ih
      intro layer member
      exact opens layer (List.mem_cons_of_mem _ member)

/-- What lies inside the first layers is a nesting of its own. -/
theorem Nested.drop {a : Agent} {options : UnpackOptions}
    (nested : Nested a options text (before ++ after) value) :
    ∃ content, Nested a options content after value := by
  induction before generalizing text with
  | nil => exact ⟨text, nested⟩
  | cons layer before ih =>
      cases nested with
      | layer opens nested => exact ih nested

namespace Agent

open Result

/-! Unpacking goes through a nesting of the right order, and through no other. -/

theorem openAnon_eq_ok_iff {a : Agent} :
    a.openAnon all outer r = .ok o ↔ outer = .nothing ∧ a.openAnon all .nothing r = .ok o := by
  unfold openAnon
  simp only [ite_throw_eq_ok_iff]
  simp

theorem openAuth_eq_ok_iff {a : Agent} :
    a.openAuth all outer r = .ok found ↔ outer ≠ .auth ∧ a.openAuth all .nothing r = .ok found := by
  unfold openAuth
  simp only [ite_throw_eq_ok_iff]
  simp

/-- An envelope without a sender, opened outside of all others. -/
theorem openAnon_nothing_eq_ok_iff {a : Agent} {o : Opened} :
    a.openAnon all .nothing r = .ok o ↔
      o.envelope = r ∧ o.sender = none ∧ a.heldKeys r.kids = .ok o.keys ∧
        ∃ kids, r.anonDecrypt o.keys all = .ok (o.payload, kids) := by
  unfold openAnon
  simp only [ite_throw_eq_ok_iff, bind_eq_ok_iff, pure_eq_ok_iff]
  constructor
  · rintro ⟨-, keys, held, ⟨payload, kids⟩, decrypted, rfl⟩
    exact ⟨rfl, rfl, held, kids, decrypted⟩
  · rintro ⟨rfl, anonymous, held, kids, decrypted⟩
    refine ⟨by simp, o.keys, held, (o.payload, kids), decrypted, ?_⟩
    rw [← anonymous]

theorem openAuth_nothing_eq_ok_iff {a : Agent} {o : Opened} :
    a.openAuth all .nothing r = .ok (sender, o) ↔
      r.withSender = .ok o.envelope ∧ o.envelope.sender = .ok sender ∧
        ∃ key, o.sender = some key ∧
          a.authDecryptKeys sender o.envelope.kids = .ok (key, o.keys) ∧
          ∃ kids, o.envelope.authDecrypt key o.keys all = .ok (o.payload, kids) := by
  unfold openAuth
  simp only [ite_throw_eq_ok_iff, bind_eq_ok_iff, pure_eq_ok_iff]
  constructor
  · rintro ⟨-, envelope, named, kid, found, ⟨key, keys⟩, held, ⟨payload, kids⟩, decrypted, same⟩
    obtain ⟨rfl, rfl⟩ := Prod.mk.inj same
    exact ⟨named, found, key, rfl, held, kids, decrypted⟩
  · rintro ⟨named, found, key, isSender, held, kids, decrypted⟩
    refine ⟨by simp, o.envelope, named, sender, found, (key, o.keys), held, (o.payload, kids),
      decrypted, ?_⟩
    rw [← isSender]

theorem openSigned_eq_ok_iff {j : Jws} :
    openSigned j = .ok (m, proof) ↔
      ∃ payload text value, j.decodePayload = .ok payload ∧ payloadText payload = .ok text ∧
        Envelope.ofText text = .ok (.plain value) ∧ Message.ofWire value = .ok (m, proof) := by
  unfold openSigned
  simp only [bind_eq_ok_iff]
  constructor
  · rintro ⟨payload, decoded, text, inside, envelope, received, read⟩
    cases envelope with
    | encrypted r => simp at read
    | signed j => simp at read
    | plain value => exact ⟨payload, text, value, decoded, inside, received, read⟩
  · rintro ⟨payload, text, value, decoded, inside, received, read⟩
    exact ⟨payload, decoded, text, inside, .plain value, received, read⟩

theorem unwrapFrom_encrypted_sound {a : Agent} {options : UnpackOptions}
    (received : Envelope.ofText text = .ok (.encrypted r))
    (unwrapped : a.unwrapFrom options (fuel + 1) outer text = some (.ok w)) :
    ∃ layer content u, Opens a options text layer content ∧ layer.isSigned = false ∧
      outer.Admits layer ∧ a.unwrapFrom options fuel layer.outer content = some (.ok u) ∧
      w = { u with layers := layer :: u.layers } := by
  rw [unwrapFrom, received, Fuelled.lift_ok_bind] at unwrapped
  obtain ⟨algorithm, found, unwrapped⟩ := Fuelled.bind_eq_ok_iff.mp unwrapped
  rw [Fuelled.lift_eq_ok_iff] at found
  cases algorithm with
  | auth authAlgorithm =>
      obtain ⟨⟨sender, o⟩, opened, unwrapped⟩ := Fuelled.bind_eq_ok_iff.mp unwrapped
      obtain ⟨content, inside, unwrapped⟩ := Fuelled.bind_eq_ok_iff.mp unwrapped
      obtain ⟨u, innerUnwrapped, unwrapped⟩ := Fuelled.bind_eq_ok_iff.mp unwrapped
      rw [Fuelled.lift_eq_ok_iff] at opened inside
      obtain ⟨admitted, opened⟩ := openAuth_eq_ok_iff.mp opened
      exact ⟨.auth authAlgorithm sender o, content, u, .auth received found opened inside, rfl,
        admitted, innerUnwrapped, (Fuelled.pure_eq_ok_iff.mp unwrapped).symm⟩
  | anon anonAlgorithm =>
      obtain ⟨o, opened, unwrapped⟩ := Fuelled.bind_eq_ok_iff.mp unwrapped
      obtain ⟨content, inside, unwrapped⟩ := Fuelled.bind_eq_ok_iff.mp unwrapped
      obtain ⟨carriedOn, carries, unwrapped⟩ := Fuelled.bind_eq_ok_iff.mp unwrapped
      rw [Fuelled.lift_eq_ok_iff] at opened inside carries
      obtain ⟨admitted, opened⟩ := openAnon_eq_ok_iff.mp opened
      cases carriedOn with
      | some carried =>
          obtain ⟨u, innerUnwrapped, unwrapped⟩ := Fuelled.bind_eq_ok_iff.mp unwrapped
          obtain ⟨asked, toUs⟩ := carriedOn?_eq_some_iff.mp carries
          exact ⟨.forward anonAlgorithm o, carried, u,
            .forward received found opened inside asked toUs, rfl, admitted, innerUnwrapped,
            (Fuelled.pure_eq_ok_iff.mp unwrapped).symm⟩
      | none =>
          obtain ⟨u, innerUnwrapped, unwrapped⟩ := Fuelled.bind_eq_ok_iff.mp unwrapped
          exact ⟨.anon anonAlgorithm o, content, u, .anon received found opened inside carries, rfl,
            admitted, innerUnwrapped, (Fuelled.pure_eq_ok_iff.mp unwrapped).symm⟩

theorem unwrapFrom_encrypted_complete {a : Agent} {options : UnpackOptions}
    (opens : Opens a options text layer content) (encrypted : layer.isSigned = false)
    (admits : outer.Admits layer)
    (unwrapped : a.unwrapFrom options fuel layer.outer content = some (.ok u)) :
    a.unwrapFrom options (fuel + 1) outer text =
      some (.ok { u with layers := layer :: u.layers }) := by
  rw [unwrapFrom]
  cases opens with
  | signed received checked decoded inside => contradiction
  | auth received found opened inside =>
      have opened := openAuth_eq_ok_iff.mpr ⟨admits, opened⟩
      simp only [received, found, opened, inside, Fuelled.lift_ok_bind]
      exact Fuelled.bind_eq_ok_iff.mpr ⟨u, unwrapped, rfl⟩
  | anon received found opened inside stays =>
      have opened := openAnon_eq_ok_iff.mpr ⟨admits, opened⟩
      simp only [received, found, opened, inside, stays, Fuelled.lift_ok_bind]
      exact Fuelled.bind_eq_ok_iff.mpr ⟨u, unwrapped, rfl⟩
  | forward received found opened inside asked toUs =>
      have opened := openAnon_eq_ok_iff.mpr ⟨admits, opened⟩
      have carries := carriedOn?_eq_some_iff.mpr ⟨asked, toUs⟩
      simp only [received, found, opened, inside, carries, Fuelled.lift_ok_bind]
      exact Fuelled.bind_eq_ok_iff.mpr ⟨u, unwrapped, rfl⟩

theorem unwrapFrom_sound {a : Agent} {options : UnpackOptions}
    (unwrapped : a.unwrapFrom options fuel outer text = some (.ok w)) :
    ∃ (s : Stack) (value : Json), s.layers = w.layers ∧ s.Within outer ∧
      Nested a options text s.layers value ∧ Message.ofWire value = .ok (w.message, w.proof) := by
  induction fuel generalizing outer text w with
  | zero => simp [unwrapFrom] at unwrapped
  | succ fuel ih =>
      have whole := unwrapped
      rw [unwrapFrom, Fuelled.bind_eq_ok_iff] at unwrapped
      obtain ⟨envelope, received, unwrapped⟩ := unwrapped
      rw [Fuelled.lift_eq_ok_iff] at received
      cases envelope with
      | plain value =>
          obtain ⟨⟨m, proof⟩, read, unwrapped⟩ := Fuelled.bind_eq_ok_iff.mp unwrapped
          rw [Fuelled.lift_eq_ok_iff] at read
          obtain rfl := Fuelled.pure_eq_ok_iff.mp unwrapped
          exact ⟨{}, value, rfl, Stack.within_empty outer, .plain received, read⟩
      | signed j =>
          obtain ⟨signers, checked, unwrapped⟩ := Fuelled.bind_eq_ok_iff.mp unwrapped
          obtain ⟨⟨m, proof⟩, opened, unwrapped⟩ := Fuelled.bind_eq_ok_iff.mp unwrapped
          rw [Fuelled.lift_eq_ok_iff] at checked opened
          obtain ⟨payload, content, value, decoded, inside, plain, read⟩ :=
            openSigned_eq_ok_iff.mp opened
          obtain rfl := Fuelled.pure_eq_ok_iff.mp unwrapped
          refine ⟨{ signed := some (text, j, signers) }, value, rfl, ?_, ?_, read⟩
          · cases outer <;> simp [Stack.Within]
          · exact .layer (.signed received checked decoded inside) (.plain plain)
      | encrypted r =>
          obtain ⟨layer, content, u, opens, encrypted, admits, innerUnwrapped, rfl⟩ :=
            unwrapFrom_encrypted_sound received whole
          obtain ⟨s, value, layers, within, nested, read⟩ := ih innerUnwrapped
          have pushed := Stack.layers_push encrypted within
          refine ⟨s.push layer, value, ?_, Stack.within_push encrypted admits within, ?_, read⟩
          · rw [pushed, layers]
          · rw [pushed]
            exact .layer opens nested

theorem unwrapFrom_complete {a : Agent} {options : UnpackOptions} {s : Stack}
    (nested : Nested a options text layers value) (ordered : s.layers = layers)
    (within : s.Within outer) (read : Message.ofWire value = .ok (m, proof))
    (enough : layers.length < fuel) :
    a.unwrapFrom options fuel outer text = some (.ok ⟨layers, m, proof⟩) := by
  induction nested generalizing s outer fuel with
  | plain received =>
      obtain ⟨fuel, rfl⟩ : ∃ n, fuel = n + 1 := ⟨fuel - 1, by simp at enough; omega⟩
      simp only [unwrapFrom, received, read, Fuelled.lift_ok_bind]
      rfl
  | @layer text layer content layers value opens nested ih =>
      obtain ⟨fuel, rfl⟩ : ∃ n, fuel = n + 1 := ⟨fuel - 1, by simp at enough; omega⟩
      have enough : layers.length < fuel := by simpa using enough
      have head := Stack.layers_eq_cons ordered within
      by_cases isSigned : layer.isSigned
      · cases opens with
        | signed received checked decoded inside =>
            obtain rfl : layers = [] := by simpa [isSigned] using head
            cases nested with
            | plain plain =>
                have opened := openSigned_eq_ok_iff.mpr ⟨_, _, _, decoded, inside, plain, read⟩
                simp only [unwrapFrom, received, checked, opened, Fuelled.lift_ok_bind]
                rfl
        | auth => contradiction
        | anon => contradiction
        | forward => contradiction
      · rw [if_neg isSigned] at head
        obtain ⟨admits, rest, restLayers, restWithin⟩ := head
        exact unwrapFrom_encrypted_complete opens (by simpa using isSigned) admits
          (ih restLayers restWithin read enough)

end Agent

end DidMessaging
