import DidMessaging.Proofs.Agent.Delivery
import DidMessaging.Proofs.Agent.Rewriting

namespace DidMessaging

open Result

namespace Agent

variable {a : Agent} {keys : List Key} {recipient : String}

/-! Whom a forward message is for. -/

/-- The keys of a message belong to the one that it is for, by whichever of the two names. -/
theorem isNext_of_holds (found : a.anoncryptKeys recipient = .ok keys)
    (holds : ∃ key ∈ keys, a.keyring.holds key.id = true)
    (named : Did.isUrl recipient = true ∨ Did.ofUrl recipient = recipient) :
    a.isNext recipient = .ok true := by
  obtain ⟨key, listed, held⟩ := holds
  obtain ⟨all, allFound, among⟩ := anoncryptKeys_sound found
  obtain ⟨doc, resolved, published⟩ := recipientKeys_sound allFound
  obtain ⟨agreement, ofUrl, -⟩ := published key (among key listed)
  unfold isNext
  by_cases isUrl : Did.isUrl recipient = true
  · rw [ofUrl isUrl] at held
    have some_ : a.keyring.held [recipient] = [recipient] :=
      List.filter_eq_self.mpr (by simpa using held)
    rw [if_pos isUrl, some_]
    rfl
  · have isDid : Did.ofUrl recipient = recipient := named.resolve_left isUrl
    rw [isDid, Directory.document_eq_ok_iff] at resolved
    have some_ : key.id ∈ a.keyring.held doc.keyAgreement :=
      List.mem_filter.mpr ⟨agreement, held⟩
    rw [if_neg isUrl, resolved]
    simpa [pure, Except.pure, bind, Except.bind] using List.ne_nil_of_mem some_

theorem isNext_of_unknown (notKey : Did.isUrl recipient = false)
    (unknown : a.directory.resolve recipient = .ok none) : a.isNext recipient = .ok false := by
  unfold isNext
  rw [if_neg (by simp [notKey]), unknown]
  rfl

/-! What becomes of a forward message. -/

variable {m : Message} {value : Json}

theorem unpack_of_stands {all : Bool} {u : Unpacked}
    (anonymous : Anonymous a all text algorithm o m.json.text)
    (stands : Forward.Stands m recipient value) (toUs : a.isNext recipient = .ok true)
    (unpacked : a.unpack value.text ⟨all, true⟩ = .ok u) :
    a.unpack text ⟨all, true⟩ = .ok u.reWrap := by
  have taken : a.unpackForward text ⟨all, true⟩ = .ok ⟨m, recipient, value.text, o.kids⟩ :=
    unpackForward_of_stands anonymous stands
  obtain ⟨algorithm', o', unwrapped⟩ := unwrap_peeled taken toUs
  rw [unpack_of_push_forward unwrapped, unpacked]
  rfl

/-- A forward message for another is a message like any. -/
theorem unpack_stopped {all : Bool} (anonymous : Anonymous a all text algorithm o m.json.text)
    (stands : Forward.Stands m recipient value) (notToUs : a.isNext recipient = .ok false) :
    a.unpack text ⟨all, true⟩ = .ok ⟨m, {
      encrypted := true
      anonymousSender := true
      encryptedTo := some o.kids
      anonAlgorithm := some algorithm }⟩ := by
  have stays : a.carriedOn? ⟨all, true⟩ m.json.text = .ok none := by
    refine bind_eq_ok_iff.mpr ⟨_, stands.received, bind_eq_ok_iff.mpr ⟨_, stands.read, ?_⟩⟩
    simp only [stands.isForward, notToUs]
    rfl
  have unwrapped : a.unwrap ⟨all, true⟩ text = .ok ⟨[.anon algorithm o], m, none⟩ := by
    rw [unwrap_anonymous ⟨all, true⟩ anonymous,
      unwrapContent_of_plain anonymous.inside stays stands.received stands.read]
  exact unpack_eq_ok_iff.mpr ⟨_, unwrapped, rfl, by simp, by simp⟩

variable {routing : List Key} {routingKey t : String} {algorithm : AnonAlgorithm} {e : Entropy}

/-- A message that an agent can unpack, wrapped for a key of its own, comes back to it as that
message if the recipient named in the forward message is a DID or the DID URL of a key. A recipient
that is neither, and that no document is found for, is not known again: what comes back then is
the forward message. -/
theorem unpack_wrapInForward {all : Bool} {u : Unpacked}
    (unpacked : a.unpack t ⟨all, true⟩ = .ok u)
    (read : Json.read? t = some value) (legible : value.Legible 100)
    (found : a.anoncryptKeys recipient = .ok keys)
    (holds : ∃ key ∈ keys, a.keyring.holds key.id = true)
    (routes : a.anoncryptKeys routingKey = .ok routing) (keeps : a.Keeps routing e.Gives) :
    (e.Reaches routing → ∃ w e',
      a.directory.wrapInForward [] algorithm t recipient [routingKey] e = .ok (w, e')) ∧
    ∀ w e', a.directory.wrapInForward [] algorithm t recipient [routingKey] e = .ok (w, e') →
      (Did.isUrl recipient = true ∨ Did.ofUrl recipient = recipient →
        ∃ signedText, u.metadata.SignedAs t value.text signedText ∧
          a.unpack w ⟨all, true⟩ = .ok ⟨u.message,
            { u.metadata with reWrapped := true, signedText }⟩) ∧
      (Did.isUrl recipient = false → a.directory.resolve recipient = .ok none →
        ∃ m, Forward.ofMessage? m = some ⟨m, recipient, value⟩ ∧
          a.unpack w ⟨all, true⟩ = .ok ⟨m, {
            encrypted := true
            anonymousSender := true
            encryptedTo := some (a.keyring.held (routing.map (·.id)))
            anonAlgorithm := some algorithm }⟩) := by
  obtain ⟨signedText, signed, again⟩ :=
    unpack_rewritten unpacked read (Json.exact_of_whole legible.whole)
  have routes : a.directory.keyless.anoncryptKeys routingKey = .ok routing := routes
  constructor
  · intro reaches
    obtain ⟨key, listed, -⟩ := keeps.holds
    obtain ⟨j, e', wraps, -⟩ := Directory.wrapOnce_complete read recipient [] algorithm
      (fun id => rfl) routes (List.ne_nil_of_mem listed) reaches
    exact ⟨j.text, e', Drawn.bind_eq_ok_iff.mpr ⟨t, e, rfl, wraps⟩⟩
  · intro w e' wraps
    obtain ⟨inner, between, wrapsInner, wraps⟩ := Drawn.bind_eq_ok_iff.mp wraps
    obtain ⟨rfl, rfl⟩ := Drawn.pure_eq_ok_iff.mp wrapsInner
    obtain ⟨-, keys', m, written, o, found', -, stands, -, -, kids, anonymous⟩ :=
      anonymous_of_wrapOnce wraps Forward.fits_nil read legible
        (fun keys' found' => Except.ok.inj (routes.symm.trans found') ▸ keeps) fun k drawn => drawn
    obtain rfl := Except.ok.inj (routes.symm.trans found')
    have anonymous := anonymous w List.mem_cons_self all
    constructor
    · intro named
      have toUs := isNext_of_holds found holds named
      exact ⟨signedText, signed, unpack_of_stands anonymous stands toUs again⟩
    · intro notKey unknown
      rw [← kids]
      exact ⟨m, stands.isForward,
        unpack_stopped anonymous stands (isNext_of_unknown notKey unknown)⟩

theorem recipientKeys_bob_query :
    bob.recipientKeys "did:example:bob?x=1" = .ok [bobKey.toPublic] := by
  refine bind_eq_ok_iff.mpr ⟨bobDocument, rfl, ?_⟩
  refine bind_eq_ok_iff.mpr ⟨[bobKey.method "did:example:bob"], rfl, ?_⟩
  exact mapM_eq_ok_iff.mpr
    (.cons (Key.ofMethod_pair rfl (X25519.length_publicKey _) List.length_replicate _) .nil)

theorem unpack_wrapInForward_invitation :
    (∃ w e', parties.wrapInForward [] .usual invitation.json.text "did:example:bob"
        ["did:example:bob#1"] stream = .ok (w, e') ∧
      bob.unpack w {} = .ok ⟨invitation, { reWrapped := true }⟩) ∧
    ∃ w e' m, parties.wrapInForward [] .usual invitation.json.text "did:example:bob?x=1"
        ["did:example:bob#1"] stream = .ok (w, e') ∧
      Forward.ofMessage? m = some ⟨m, "did:example:bob?x=1", invitation.json⟩ ∧
      bob.unpack w {} = .ok ⟨m, {
        encrypted := true
        anonymousSender := true
        encryptedTo := some ["did:example:bob#1"]
        anonAlgorithm := some .usual }⟩ := by
  have holds : ∃ key ∈ [bobKey.toPublic], bob.keyring.holds key.id = true :=
    ⟨_, List.mem_singleton_self _, rfl⟩
  have found : bob.anoncryptKeys "did:example:bob" = .ok [bobKey.toPublic] :=
    Directory.anoncryptKeys_way (by decide)
  have routes : bob.anoncryptKeys "did:example:bob#1" = .ok [bobKey.toPublic] :=
    Directory.anoncryptKeys_way (by decide)
  have keeps : bob.Keeps [bobKey.toPublic] stream.Gives :=
    Directory.keeps_way (bob, "did:example:bob#1") (by simp [Directory.way]) _ routes
  have foundByQuery : bob.anoncryptKeys "did:example:bob?x=1" = .ok [bobKey.toPublic] :=
    bind_eq_ok_iff.mpr ⟨_, recipientKeys_bob_query, rfl⟩
  have legible : invitation.json.Legible 100 := legible_invitation.mono (by decide)
  constructor
  · obtain ⟨wraps, returns⟩ := unpack_wrapInForward unpack_invitation Directory.read_invitation
      legible found holds routes keeps
    obtain ⟨w, e', wraps⟩ := wraps (Directory.reaches_stream rfl)
    obtain ⟨returned, -⟩ := returns w e' wraps
    obtain ⟨signedText, unsigned | ⟨signed, -⟩, unpacked⟩ := returned (.inr (by decide))
    · obtain rfl : signedText = none := unsigned
      exact ⟨w, e', wraps, unpacked⟩
    · exact absurd signed (by simp)
  · obtain ⟨wraps, returns⟩ := unpack_wrapInForward unpack_invitation Directory.read_invitation
      legible foundByQuery holds routes keeps
    obtain ⟨w, e', wraps⟩ := wraps (Directory.reaches_stream rfl)
    obtain ⟨-, stopped⟩ := returns w e' wraps
    obtain ⟨m, isForward, unpacked⟩ := stopped (by decide) rfl
    exact ⟨w, e', m, wraps, isForward, unpacked⟩

end Agent

end DidMessaging
