import DidMessaging.Proofs.Agent.Holding
import DidMessaging.Proofs.Agent.Peeling
import DidMessaging.Proofs.Envelope.Rearranging

namespace DidMessaging

open Result

theorem Result.mapM_eq_error {f : α → Except ε β} {before after : List α} {x : α} {e : ε}
    (each : ∀ y ∈ before, ∃ z, f y = .ok z) (fails : f x = .error e) :
    (before ++ x :: after).mapM f = .error e := by
  induction before with
  | nil =>
      rw [List.nil_append, List.mapM_cons, fails]
      rfl
  | cons y before ih =>
      obtain ⟨⟨z, found⟩, rest⟩ := List.forall_mem_cons.mp each
      rw [List.cons_append, List.mapM_cons, found, ih rest]
      rfl

/-! Unpacking goes through the opened envelope. -/

namespace Agent

variable {a : Agent} {text : String} {r : Jwe.Received} {algorithm : AnonAlgorithm}

/-- The message with its rotation proved, once its sender is the one who encrypted and signed. -/
def settle (a : Agent) (w : Unwrapped) : Result Unpacked := do
  let answer ← a.settleRotation w
  checkSender answer.message answer.metadata.encryptedFrom .encryptedBy
  checkSender answer.message answer.metadata.signFrom .signedBy
  return answer

/-- The forward message in an envelope that was opened. -/
def forwardContent (o : Opened) : Result UnpackedForward := do
  let .plain value ← Envelope.ofText (← payloadText o.payload)
    | throw (.malformed .forwardNotPlaintext)
  let (m, _) ← Message.ofWire value
  let some f := Forward.ofMessage? m | throw (.malformed (.notForward m.id))
  return { message := m, next := f.next, carried := f.carried.text, kids := o.kids }

theorem unwrap_anon (received : Envelope.ofText text = .ok (.encrypted r))
    (named : r.algorithm = .ok (.anon algorithm)) (options : UnpackOptions) :
    a.unwrap options text = (do
      let o ← a.openAnon options.allKeys .nothing r
      a.unwrapContent options algorithm o) := by
  cases opened : a.openAnon options.allKeys .nothing r with
  | error e =>
      refine Option.some.inj ?_
      rw [← a.unwrap_eq options (Nat.lt_succ_self (burden text))]
      simp only [unwrapFrom, received, named, opened, Fuelled.lift_ok_bind]
      rfl
  | ok o =>
      cases inside : payloadText o.payload with
      | error e =>
          refine Option.some.inj ?_
          rw [← a.unwrap_eq options (Nat.lt_succ_self (burden text))]
          simp only [unwrapFrom, received, named, opened, inside, Fuelled.lift_ok_bind]
          simp only [unwrapContent, bind, Except.bind, inside]
          rfl
      | ok inner => exact unwrap_anonymous options ⟨⟨r, received, named, opened⟩, inside⟩

theorem unpackForward_anon (received : Envelope.ofText text = .ok (.encrypted r))
    (named : r.algorithm = .ok (.anon algorithm)) (options : UnpackOptions) :
    a.unpackForward text options = (do
      let o ← a.openAnon options.allKeys .nothing r
      forwardContent o) := by
  rw [unpackForward, received]
  dsimp only [bind, Except.bind]
  rw [named]
  rfl

/-! The keys that are tried. -/

/-- The envelope passes the checks that need no key, and one of the secrets that the agent holds for
its recipients makes a key that decrypts it. -/
structure Openable (a : Agent) (r : Jwe.Received) : Prop where
  noSender : r.header.skid = none
  noProducer : r.header.apu = none
  committed : r.checkRecipients = .ok ()
  usable : ∃ kid ∈ a.keyring.held r.kids, ∃ key payload,
    a.keyring.key kid = .ok key ∧ r.decrypt none key = .ok payload

theorem Openable.held_ne_nil (openable : a.Openable r) : a.keyring.held r.kids ≠ [] := by
  obtain ⟨kid, member, -⟩ := openable.usable
  exact List.ne_nil_of_mem member

theorem heldKeys_eq_mapM (some_ : a.keyring.held kids ≠ []) :
    a.heldKeys kids = (a.keyring.held kids).mapM a.keyring.key :=
  if_neg (by simpa using some_)

/-- When all held secrets make keys, the key of one of them opens the envelope. -/
theorem Openable.openAnon (openable : a.Openable r)
    (each : ∀ kid ∈ a.keyring.held r.kids, ∃ key, a.keyring.key kid = .ok key) :
    ∃ o, a.openAnon false .nothing r = .ok o ∧ o.kids = a.keyring.held r.kids ∧
      ∃ kid ∈ a.keyring.held r.kids, ∃ key, a.keyring.key kid = .ok key ∧
        r.decrypt none key = .ok o.payload := by
  obtain ⟨keys, found⟩ := exists_mapM each
  have held : a.heldKeys r.kids = .ok keys := by
    rw [heldKeys_eq_mapM openable.held_ne_nil, found]
  obtain ⟨ids, own⟩ := heldKeys_sound held
  have opener : ∃ key ∈ keys, ∃ payload, r.decrypt none key = .ok payload := by
    obtain ⟨kid, member, key, payload, keyFound, opens⟩ := openable.usable
    obtain ⟨key', listed, rfl⟩ := List.mem_map.mp (ids ▸ member)
    have same : key' = key := Except.ok.inj ((own key' listed).symm.trans keyFound)
    exact ⟨key, same ▸ listed, payload, opens⟩
  obtain ⟨payload, kids, decrypted⟩ := Jwe.Received.exists_decryptBy_first opener
  have anonymous := Jwe.Received.anonDecrypt_eq_ok_iff.mpr
    ⟨openable.noSender, openable.noProducer, openable.committed, decrypted⟩
  obtain ⟨key, listed, opens⟩ := Jwe.Received.decryptBy_sound decrypted
  refine ⟨⟨r, none, keys, payload⟩, ?_, ids, key.id, ?_, key, own key listed, opens⟩
  · exact openAnon_nothing_eq_ok_iff.mpr ⟨rfl, rfl, held, kids, anonymous⟩
  · rw [← ids]
    exact List.mem_map_of_mem listed

/-- A held secret that makes no key fails the envelope before any key is tried. -/
theorem openAnon_of_unusable {before after : List String} {kid : String} {e : Error}
    (held : a.keyring.held r.kids = before ++ kid :: after)
    (usable : ∀ k ∈ before, ∃ key, a.keyring.key k = .ok key)
    (unusable : a.keyring.key kid = .error e) (all : Bool) :
    a.openAnon all .nothing r = .error e := by
  have some_ : a.keyring.held r.kids ≠ [] := by
    rw [held]
    simp
  have keys : a.heldKeys r.kids = .error e := by
    rw [heldKeys_eq_mapM some_, held, mapM_eq_error usable unusable]
  rw [openAnon, keys]
  rfl

/-- An envelope without a sender that some key of the agent decrypts, where one is enough. When all
secrets held for its recipients make keys, unpacking goes on with what one of these decrypts it to.
Otherwise the first secret that makes none is what is reported, and the content is not reached. -/
theorem unpack_selects (received : Envelope.ofText text = .ok (.encrypted r))
    (named : r.algorithm = .ok (.anon algorithm)) (openable : a.Openable r)
    (unwrapForward : Bool) :
    ((∀ kid ∈ a.keyring.held r.kids, ∃ key, a.keyring.key kid = .ok key) →
      ∃ o, a.openAnon false .nothing r = .ok o ∧ o.kids = a.keyring.held r.kids ∧
        (∃ kid ∈ a.keyring.held r.kids, ∃ key, a.keyring.key kid = .ok key ∧
          r.decrypt none key = .ok o.payload) ∧
        a.unpackForward text ⟨false, unwrapForward⟩ = forwardContent o ∧
        a.unpack text ⟨false, unwrapForward⟩ = (do
          let w ← a.unwrapContent ⟨false, unwrapForward⟩ algorithm o
          a.settle w)) ∧
    ∀ before kid after e, a.keyring.held r.kids = before ++ kid :: after →
      (∀ k ∈ before, ∃ key, a.keyring.key k = .ok key) → a.keyring.key kid = .error e →
      a.unpackForward text ⟨false, unwrapForward⟩ = .error e ∧
        a.unpack text ⟨false, unwrapForward⟩ = .error e := by
  have unpacks : a.unpack text ⟨false, unwrapForward⟩ =
      a.unwrap ⟨false, unwrapForward⟩ text >>= a.settle := rfl
  rw [unpacks, unpackForward_anon received named, unwrap_anon received named]
  constructor
  · intro each
    obtain ⟨o, opened, kids, decrypts⟩ := openable.openAnon each
    refine ⟨o, opened, kids, decrypts, ?_, ?_⟩
    · rw [opened]
      rfl
    · rw [opened]
      rfl
  · intro before kid after e held usable unusable
    rw [openAnon_of_unusable held usable unusable]
    exact ⟨rfl, rfl⟩

/-! An envelope for two keys of bob, who has the second in a format that does not serve. -/

def bobWith (others : List Secret) : Agent := ⟨parties, .ofSecrets (bobKey.secret :: others)⟩

def oldSecret : Secret := ⟨"did:example:bob#2", .x25519KeyAgreementKey2019, .base58 "z"⟩

theorem key_bobWith (others : List Secret) :
    (bobWith others).keyring.key "did:example:bob#1" = .ok bobKey :=
  Key.ofSecret_pair rfl (X25519.length_publicKey _) List.length_replicate

theorem exists_openable :
    ∃ (j : Jwe) (r : Jwe.Received), Envelope.ofText j.text = .ok (.encrypted r) ∧
      r.algorithm = .ok (.anon .usual) ∧ r.kids = ["did:example:bob#1", "did:example:bob#2"] ∧
      r.decrypt none bobKey = .ok (Utf8.encode invitation.json.text) ∧
      ∀ others, (bobWith others).Openable r := by
  have noKey : ∀ key ∈ (none : Option Key), key = Jwe.senderKey := by simp
  obtain ⟨j, r, parsed, alg, enc, names, each⟩ :=
    Jwe.exists_received_two (Utf8.encode invitation.json.text) AnonAlgorithm.usual.content
      Jwe.sized_anon noKey .none
  have kids : r.kids = ["did:example:bob#1", "did:example:bob#2"] := names.kids
  have decrypts : r.decrypt none bobKey = .ok (Utf8.encode invitation.json.text) :=
    each Jwe.firstKey (by simp)
  have named : r.algorithm = .ok (.anon .usual) := by
    rw [Jwe.Received.algorithm, alg, enc, EnvelopeAlgorithm.ofHeader_anon]
  refine ⟨j, r, Envelope.ofText_jwe parsed, named, kids, decrypts, ?_⟩
  intro others
  obtain ⟨noSender, noProducer⟩ := names.anonymous rfl
  refine ⟨noSender, noProducer, names.committed, "did:example:bob#1", ?_, bobKey, _,
    key_bobWith others, decrypts⟩
  rw [kids]
  exact List.mem_filter.mpr ⟨List.mem_cons_self, rfl⟩

/-- With the first key alone bob unpacks the invitation; with the old secret beside it he does
not. -/
theorem unpack_selects_bob :
    ∃ j : Jwe, (bobWith []).unpack j.text {} = .ok ⟨invitation, {
        encrypted := true
        anonymousSender := true
        encryptedTo := some ["did:example:bob#1"]
        anonAlgorithm := some .usual }⟩ ∧
      (bobWith [oldSecret]).unpack j.text {} =
        .error (.secretType "X25519KeyAgreementKey2019") ∧
      (bobWith [oldSecret]).unpackForward j.text {} =
        .error (.secretType "X25519KeyAgreementKey2019") := by
  obtain ⟨j, r, received, named, kids, decrypts, openable⟩ := exists_openable
  have first : ∀ kid ∈ (bobWith []).keyring.held r.kids, kid = "did:example:bob#1" := by
    rw [kids]
    exact List.forall_mem_singleton.mpr rfl
  obtain ⟨goesOn, -⟩ := unpack_selects received named (openable []) true
  obtain ⟨-, fails⟩ := unpack_selects received named (openable [oldSecret]) true
  refine ⟨j, ?_, ?_⟩
  · obtain ⟨o, -, held, ⟨kid, member, key, found, opens⟩, -, unpacks⟩ :=
      goesOn fun kid member => ⟨bobKey, first kid member ▸ key_bobWith []⟩
    have oneKid : o.kids = ["did:example:bob#1"] := by
      rw [held, kids]
      rfl
    obtain rfl := first kid member
    obtain rfl := Except.ok.inj (found.symm.trans (key_bobWith []))
    have content : o.payload = Utf8.encode invitation.json.text :=
      Except.ok.inj (opens.symm.trans decrypts)
    have inside : payloadText o.payload = .ok invitation.json.text := by
      rw [content, payloadText, Utf8.decode?_encode]
    obtain ⟨plain, read⟩ := received_json canonical_invitation
      (Message.distinct_of_validate rfl) rfl legible_invitation_deepest (by simp [invitation])
      (by simp [Message.Plain, invitation])
    have stays : (bobWith []).carriedOn? {} invitation.json.text = .ok none :=
      carriedOn?_of_not_forward plain read rfl
    refine unpacks.trans ?_
    rw [unwrapContent_of_plain inside stays plain read, ← oneKid]
    rfl
  · have held : (bobWith [oldSecret]).keyring.held r.kids =
        ["did:example:bob#1"] ++ "did:example:bob#2" :: [] := by
      rw [kids]
      rfl
    obtain ⟨forward, unpacked⟩ := fails _ _ _ (.secretType "X25519KeyAgreementKey2019") held
      (List.forall_mem_singleton.mpr ⟨bobKey, key_bobWith _⟩) rfl
    exact ⟨unpacked, forward⟩

end Agent

end DidMessaging
