import DidMessaging.Proofs.Agent.Encrypted

namespace DidMessaging

open Result

namespace Jwe

variable {enc : ContentAlgorithm} {recipients : List Key} {j j' : Jwe} {e after after' : Entropy}

/-- Two envelopes that differ at most in the ciphertext and its tag. -/
structure LooksLike (j j' : Jwe) : Prop where
  header : j.header = j'.header
  recipients : j.recipients = j'.recipients
  iv : j.iv = j'.iv

/-- The header has no member that could name a sender. -/
def NamesNoSender (j : Jwe) : Prop :=
  ∃ members : Members, j.header = Base64Url.encode (Utf8.encode (Json.object members).text) ∧
    "skid" ∉ Members.names members ∧ "apu" ∉ Members.names members

theorem namesNoSender_of_assembled {f : Fresh} {payload content tag : Bytes} {alg : String}
    (assembled : Assembled f payload alg enc none recipients content tag j) : j.NamesNoSender :=
  ⟨_, assembled.headerText, by simp [headerFor, Members.names, Json.optional],
    by simp [headerFor, Members.names, Json.optional]⟩

/-- Without a sender neither the content nor its tag has a part in the wrapped keys. -/
theorem looksLike_of_assembled {f : Fresh} {payload payload' content content' tag tag' : Bytes}
    {alg : String} (assembled : Assembled f payload alg enc none recipients content tag j)
    (assembled' : Assembled f payload' alg enc none recipients content' tag' j') :
    j.LooksLike j' where
  header := assembled.headerText.trans assembled'.headerText.symm
  recipients := by
    have wraps := mapM_eq_ok_iff.mpr assembled.wrapped
    have wraps' := mapM_eq_ok_iff.mpr assembled'.wrapped
    exact Except.ok.inj (wraps.symm.trans wraps')
  iv := assembled.ivText.trans assembled'.ivText.symm

/-- What is anonymously encrypted for the same keys with the same octets of a stream looks alike. -/
theorem looksLike_of_anoncrypt {payload payload' : Bytes} {algorithm : AnonAlgorithm}
    (encrypts : anoncrypt payload algorithm recipients e = .ok (j, after))
    (encrypts' : anoncrypt payload' algorithm recipients e = .ok (j', after')) :
    ∃ r r', parse j.text = .ok r ∧ parse j'.text = .ok r' ∧ r.jwe.LooksLike r'.jwe ∧
      r.jwe.NamesNoSender ∧ r'.jwe.NamesNoSender := by
  obtain ⟨curve, f, common, drawn, assembles⟩ := encrypt_eq_ok_iff.mp encrypts
  obtain ⟨curve', f', common', drawn', assembles'⟩ := encrypt_eq_ok_iff.mp encrypts'
  obtain rfl := Except.ok.inj (common.symm.trans common')
  obtain ⟨rfl, -⟩ := Prod.mk.inj (Except.ok.inj (drawn.symm.trans drawn'))
  obtain ⟨content, tag, assembled⟩ := assemble_sound assembles
  obtain ⟨content', tag', assembled'⟩ := assemble_sound assembles'
  have some_ := (commonCurve_sound common).1
  exact ⟨_, _, parse_text assembled some_, parse_text assembled' some_,
    looksLike_of_assembled assembled assembled', namesNoSender_of_assembled assembled,
    namesNoSender_of_assembled assembled'⟩

end Jwe

namespace Agent

variable {a a' : Agent} {recipient : String} {keys keys' all : List Key}

/-! Whom a message is encrypted for follows from the directory and the ids of the keys. -/

/-- The ids of keys that a recipient has tell which keys they are. -/
theorem eq_of_ids (found : a.recipientKeys recipient = .ok all) (listed : ∀ k ∈ keys, k ∈ all)
    (listed' : ∀ k ∈ keys', k ∈ all) (ids : keys.map (·.id) = keys'.map (·.id)) : keys = keys' := by
  obtain ⟨doc, -, published⟩ := recipientKeys_sound found
  have fetched {some_ : List Key} (listed : ∀ k ∈ some_, k ∈ all) :
      (some_.map (·.id)).mapM (fun kid => doc.method kid >>= Key.ofMethod) = .ok some_ :=
    mapM_eq_ok_iff.mpr (List.forall₂_map_left_iff.mpr
      (List.forall₂_same.mpr fun k member => (published k (listed k member)).2.2))
  exact Except.ok.inj ((fetched listed).symm.trans (ids ▸ fetched listed'))

/-! The outermost envelope. -/

/-- The state in which a stream is left for the outermost envelope: untouched, or after the fresh
material of an authenticated envelope inside. -/
def LeavesOuter (hidesSender : Bool) (keys : List Key) (e outer : Entropy) : Prop :=
  match hidesSender with
  | true => ∃ curve f, Jwe.commonCurve none keys = .ok curve ∧
      Jwe.fresh curve AuthAlgorithm.usual.content e = .ok (f, outer)
  | false => outer = e

theorem LeavesOuter.unique {hidesSender : Bool} {e outer outer' : Entropy}
    (leaves : LeavesOuter hidesSender keys e outer)
    (leaves' : LeavesOuter hidesSender keys e outer') : outer = outer' := by
  cases hidesSender with
  | true =>
      obtain ⟨curve, f, common, drawn⟩ := leaves
      obtain ⟨curve', f', common', drawn'⟩ := leaves'
      obtain rfl := Except.ok.inj (common.symm.trans common')
      exact (Prod.mk.inj (Except.ok.inj (drawn.symm.trans drawn'))).2
  | false => exact leaves.trans leaves'.symm

variable {payload text : String} {sender : Option String} {options : EncryptOptions}
  {toKids : List String} {fromKid : Option String} {e e' : Entropy}

/-- A sender is never named by the outermost envelope when it is hidden, or when there is none. -/
theorem encryptFor_anonymous
    (encrypts : a.encryptFor payload recipient sender options e = .ok ((text, toKids, fromKid), e'))
    (hides : sender.isSome = true → options.protectSender = true) :
    ∃ all keys content j outer, a.recipientKeys recipient = .ok all ∧ (∀ k ∈ keys, k ∈ all) ∧
      keys.map (·.id) = toKids ∧ j.text = text ∧ LeavesOuter sender.isSome keys e outer ∧
      Jwe.anoncrypt content options.anonAlgorithm keys outer = .ok (j, e') := by
  unfold encryptFor at encrypts
  cases sender with
  | none =>
      obtain ⟨keys, found, encrypts⟩ := Drawn.lift_bind_eq_ok_iff.mp encrypts
      obtain ⟨j, between, anoncrypts, encrypts⟩ := Drawn.bind_eq_ok_iff.mp encrypts
      obtain ⟨made, rfl⟩ := Drawn.pure_eq_ok_iff.mp encrypts
      cases made
      obtain ⟨all, allFound, listed⟩ := anoncryptKeys_sound found
      exact ⟨all, keys, _, j, e, allFound, listed, rfl, rfl, rfl, anoncrypts⟩
  | some sender =>
      obtain ⟨⟨key, keys⟩, found, encrypts⟩ := Drawn.lift_bind_eq_ok_iff.mp encrypts
      obtain ⟨inner, outer, authcrypts, encrypts⟩ := Drawn.bind_eq_ok_iff.mp encrypts
      simp only [hides rfl] at encrypts
      obtain ⟨j, between, anoncrypts, encrypts⟩ := Drawn.bind_eq_ok_iff.mp encrypts
      obtain ⟨made, rfl⟩ := Drawn.pure_eq_ok_iff.mp encrypts
      cases made
      obtain ⟨-, all, allFound, listed⟩ := authcryptKeys_sound found
      obtain ⟨curve, f, common, drawn, -⟩ := Jwe.encrypt_eq_ok_iff.mp authcrypts
      -- there is but one algorithm with a sender, so all senders draw alike
      have leaves : LeavesOuter true keys e outer :=
        ⟨curve, f, Jwe.commonCurve_none common, drawn⟩
      exact ⟨all, keys, _, j, outer, allFound, listed, rfl, rfl, leaves, anoncrypts⟩

theorem encryptFor_of_packEncrypted {m : Message} {signer : Option String}
    (packs : a.packEncrypted m recipient sender signer options e = .ok (packed, e'))
    (direct : options.forward = false) :
    ∃ payload, a.encryptFor payload recipient sender options e =
      .ok ((packed.text, packed.toKids, packed.fromKid), e') := by
  unfold packEncrypted at packs
  obtain ⟨⟨⟩, -, packs⟩ := Drawn.lift_bind_eq_ok_iff.mp packs
  obtain ⟨plain, -, packs⟩ := Drawn.lift_bind_eq_ok_iff.mp packs
  obtain ⟨⟨payload, signKid⟩, -, packs⟩ := Drawn.lift_bind_eq_ok_iff.mp packs
  obtain ⟨⟨text, toKids, fromKid⟩, between, encrypts, packs⟩ := Drawn.bind_eq_ok_iff.mp packs
  simp only [direct] at packs
  obtain ⟨⟨text, delivery⟩, afterRoute, routed, packs⟩ := Drawn.bind_eq_ok_iff.mp packs
  obtain ⟨routed, rfl⟩ := Drawn.pure_eq_ok_iff.mp routed
  cases routed
  obtain ⟨rfl, rfl⟩ := Drawn.pure_eq_ok_iff.mp packs
  exact ⟨payload, encrypts⟩

/-- Two messages that are encrypted for the same keys of a recipient, both by senders who hide
themselves or both without one, look alike to everyone else: only the ciphertext and the tag can
tell one from the other, whoever sends and signs them and whatever they say. -/
theorem packEncrypted_looksLike {m m' : Message} {sender' signer signer' : Option String}
    {options' : EncryptOptions} {packed packed' : PackedEncrypted} {after after' : Entropy}
    (packs : a.packEncrypted m recipient sender signer options e = .ok (packed, after))
    (packs' : a'.packEncrypted m' recipient sender' signer' options' e = .ok (packed', after'))
    (sameDirectory : a.directory = a'.directory)
    (direct : options.forward = false) (direct' : options'.forward = false)
    (sameAlgorithm : options.anonAlgorithm = options'.anonAlgorithm)
    (sameKids : packed.toKids = packed'.toKids)
    (alike : sender.isSome = sender'.isSome)
    (hides : sender.isSome = true →
      options.protectSender = true ∧ options'.protectSender = true) :
    ∃ r r', Jwe.parse packed.text = .ok r ∧ Jwe.parse packed'.text = .ok r' ∧
      r.jwe.LooksLike r'.jwe ∧ r.jwe.NamesNoSender ∧ r'.jwe.NamesNoSender := by
  obtain ⟨payload, encrypts⟩ := encryptFor_of_packEncrypted packs direct
  obtain ⟨payload', encrypts'⟩ := encryptFor_of_packEncrypted packs' direct'
  obtain ⟨all, keys, content, j, outer, found, listed, kids, text, leaves, anoncrypts⟩ :=
    encryptFor_anonymous encrypts fun sent => (hides sent).1
  obtain ⟨all', keys', content', j', outer', found', listed', kids', text', leaves', anoncrypts'⟩ :=
    encryptFor_anonymous encrypts' fun sent => (hides (alike.trans sent)).2
  rw [← recipientKeys_directory sameDirectory] at found'
  obtain rfl := Except.ok.inj (found.symm.trans found')
  obtain rfl : keys = keys' := eq_of_ids found listed listed' (by rw [kids, kids', sameKids])
  rw [← alike] at leaves'
  obtain rfl := leaves.unique leaves'
  rw [← sameAlgorithm] at anoncrypts'
  rw [← text, ← text']
  exact Jwe.looksLike_of_anoncrypt anoncrypts anoncrypts'

/-! Alice sends an invitation that she has signed, and then takes it back without signing. -/

def withdrawal : Message :=
  { invitation with type := "withdrawal", body := .object [], extra := [] }

theorem packEncrypted_hidden {m : Message} {payload : String} {signer signKid : Option String}
    (valid : checkParties m "did:example:bob" (some "did:example:alice") signer = .ok ())
    (plain : alice.plaintext m none = .ok ⟨m.json.text, none⟩)
    (made : alice.payload m.json.text signer = .ok (payload, signKid)) :
    ∃ packed e', alice.packEncrypted m "did:example:bob" (some "did:example:alice") signer hidden
        stream = .ok (packed, e') ∧ packed.toKids = ["did:example:bob#1"] := by
  obtain ⟨j, e', encrypts⟩ := encryptFor_hidden payload
  exact ⟨⟨j.text, ["did:example:bob#1"], some "did:example:alice#1", signKid, none, none⟩, e',
    Drawn.lift_bind_eq_ok_iff.mpr ⟨(), ofCheck_eq_ok_iff.mpr valid,
    Drawn.lift_bind_eq_ok_iff.mpr ⟨⟨m.json.text, none⟩, plain,
    Drawn.lift_bind_eq_ok_iff.mpr ⟨_, made, Drawn.bind_eq_ok_iff.mpr ⟨_, e', encrypts, rfl⟩⟩⟩⟩, rfl⟩

theorem packEncrypted_looksLike_withdrawal :
    ∃ packed packed' e' e'' r r',
      alice.packEncrypted invitation "did:example:bob" (some "did:example:alice")
        (some "did:example:alice") hidden stream = .ok (packed, e') ∧
      alice.packEncrypted withdrawal "did:example:bob" (some "did:example:alice") none hidden
        stream = .ok (packed', e'') ∧
      Jwe.parse packed.text = .ok r ∧ Jwe.parse packed'.text = .ok r' ∧
      r.jwe.LooksLike r'.jwe ∧ r.jwe.NamesNoSender ∧ r'.jwe.NamesNoSender := by
  obtain ⟨payload, -, -, made, -⟩ := seals_hidden invitation.json.text
  obtain ⟨packed, e', packs, kids⟩ := packEncrypted_hidden rfl rfl made
  have unsigned : alice.payload withdrawal.json.text none = .ok (withdrawal.json.text, none) := rfl
  obtain ⟨packed', e'', packs', kids'⟩ := packEncrypted_hidden rfl rfl unsigned
  obtain ⟨r, r', alike⟩ := packEncrypted_looksLike packs packs' rfl rfl rfl rfl
    (kids.trans kids'.symm) rfl fun _ => ⟨rfl, rfl⟩
  exact ⟨packed, packed', e', e'', r, r', packs, packs', alike⟩

end Agent

end DidMessaging
