import DidMessaging.Proofs.Agent.Delivery
import DidMessaging.Proofs.Agent.Services

namespace DidMessaging

open Result

/-! Wrapping for at least one mediator. -/

namespace Directory

variable {d : Directory} {headers : Members} {algorithm : AnonAlgorithm} {e e' : Entropy}

/-- A text is the envelope of a forward message, for the keys that a routing key stands for. -/
def Wraps (d : Directory) (algorithm : AnonAlgorithm) (routingKey text : String) : Prop :=
  ∃ (m : Message) (keys : List Key) (j : Jwe) (before after : Entropy), m.type = Forward.type ∧
    d.keyless.anoncryptKeys routingKey = .ok keys ∧
    Jwe.anoncrypt (Utf8.encode (m.wireText none)) algorithm keys before = .ok (j, after) ∧
    j.text = text

theorem wraps_of_wrapOnce
    (wrapped : d.wrapOnce headers algorithm packed next routingKey e = .ok (w, e')) :
    d.Wraps algorithm routingKey w := by
  unfold wrapOnce at wrapped
  obtain ⟨m, afterMessage, created, wrapped⟩ := Drawn.bind_eq_ok_iff.mp wrapped
  obtain ⟨keys, found, wrapped⟩ := Drawn.lift_bind_eq_ok_iff.mp wrapped
  obtain ⟨j, afterEnvelope, encrypts, wrapped⟩ := Drawn.bind_eq_ok_iff.mp wrapped
  obtain ⟨rfl, rfl⟩ := Drawn.pure_eq_ok_iff.mp wrapped
  obtain ⟨-, -, carried, id, -, rfl⟩ := Forward.create_sound created
  exact ⟨_, keys, j, afterMessage, afterEnvelope, rfl, found, encrypts, rfl⟩

theorem wraps_of_wrapInForward {recipient : String} {keys : List String}
    (wrapped : d.wrapInForward headers algorithm t recipient keys e = .ok (w, e'))
    (some_ : keys ≠ []) : ∃ key ∈ keys.head?, d.Wraps algorithm key w := by
  cases keys with
  | nil => contradiction
  | cons key keys =>
      obtain ⟨inner, between, -, wrapped⟩ := Drawn.bind_eq_ok_iff.mp wrapped
      exact ⟨key, rfl, wraps_of_wrapOnce wrapped⟩

end Directory

namespace Agent

variable {a : Agent} {m : Message} {recipient text text' : String} {sender signer : Option String}
  {options : EncryptOptions} {packed : PackedEncrypted} {delivery : Option Delivery}
  {e e' : Entropy}

/-! What routing does to a text. -/

/-- A text is wrapped for the services on its way, first those of mediators and then the recipient's
own, and delivered to the first of them. -/
structure Routed (a : Agent) (recipient : String) (options : EncryptOptions)
    (mediators : List Service) (own : Service) (text : String) (e : Entropy)
    (routed : String × Option Delivery) (e' : Entropy) : Prop where
  published : ∃ doc, a.directory.document (Did.ofUrl recipient) = .ok doc ∧ own ∈ doc.services
  delivery : routed.2 = some ⟨own.id, (mediators.head?.getD own).endpoint⟩
  address : Did.parse? (mediators.head?.getD own).endpoint = none
  wrapped : a.directory.wrapInForward options.forwardHeaders options.anonAlgorithm text recipient
    (mediators.flatMap (·.routingKeys) ++ own.routingKeys) e = .ok (routed.1, e')
  direct : Did.parse? own.endpoint = none → mediators = []
  mediated : (Did.parse? own.endpoint).isSome = true → ∃ hop doc key, mediators = [hop] ∧
    a.directory.document own.endpoint = .ok doc ∧ hop ∈ doc.services ∧
    key ∈ (hop.routingKeys ++ own.routingKeys).head? ∧
    a.directory.Wraps options.anonAlgorithm key routed.1

theorem route_sound {routed : String × Option Delivery}
    (routes : a.route text recipient options e = .ok (routed, e')) :
    ∃ chain, a.directory.serviceChain recipient options.serviceId = .ok chain ∧
      (chain = [] → routed = (text, none) ∧ e' = e) ∧
      (chain ≠ [] → ∃ mediators own, chain = mediators ++ [own] ∧
        a.Routed recipient options mediators own text e routed e') := by
  unfold route at routes
  obtain ⟨chain, resolved, routes⟩ := Drawn.lift_bind_eq_ok_iff.mp routes
  refine ⟨chain, resolved, ?_⟩
  -- By the way that the chain is: only on the way over a mediator must there be a routing key.
  cases Directory.serviceChain_eq_ok_iff.mp resolved with
  | nowhere known none_ =>
      obtain ⟨rfl, rfl⟩ := Drawn.pure_eq_ok_iff.mp routes
      exact ⟨fun _ => ⟨rfl, rfl⟩, by simp⟩
  | @direct doc s known found address =>
      refine ⟨by simp, fun _ => ⟨[], s, rfl, ?_⟩⟩
      dsimp only [List.head?_cons, List.getLast?_singleton] at routes
      obtain ⟨-, routes⟩ := Drawn.ite_throw_eq_ok_iff.mp routes
      obtain ⟨wrapped, between, wraps, routes⟩ := Drawn.bind_eq_ok_iff.mp routes
      obtain ⟨rfl, rfl⟩ := Drawn.pure_eq_ok_iff.mp routes
      have noMediator : Did.parse? s.endpoint = none := by
        simpa [Directory.isMediator] using address
      rw [List.flatMap_singleton] at wraps
      exact ⟨⟨doc, known, Directory.mem_of_service found⟩, rfl, noMediator, wraps, fun _ => rfl,
        by simp [noMediator]⟩
  | @mediated doc s mediatorDoc hop known found mediator knownMediator first address =>
      refine ⟨by simp, fun _ => ⟨[hop], s, rfl, ?_⟩⟩
      dsimp only [List.head?_cons, List.getLast?_cons_cons, List.getLast?_singleton] at routes
      obtain ⟨some_, routes⟩ := Drawn.ite_throw_eq_ok_iff.mp routes
      obtain ⟨wrapped, between, wraps, routes⟩ := Drawn.bind_eq_ok_iff.mp routes
      obtain ⟨rfl, rfl⟩ := Drawn.pure_eq_ok_iff.mp routes
      rw [List.flatMap_cons, List.flatMap_singleton] at wraps some_
      have some_ : hop.routingKeys ++ s.routingKeys ≠ [] := by simpa using some_
      obtain ⟨key, isFirst, wrapsKey⟩ := Directory.wraps_of_wrapInForward wraps some_
      rw [← List.flatMap_singleton (·.routingKeys) hop] at wraps
      refine ⟨⟨doc, known, Directory.mem_of_service found⟩, rfl, ?_, wraps, ?_, fun _ => ?_⟩
      · simpa [Directory.isMediator] using address
      · intro noMediator
        simp [Directory.isMediator, noMediator] at mediator
      · exact ⟨hop, mediatorDoc, key, rfl, knownMediator, Directory.mem_of_service first, isFirst,
          wrapsKey⟩

/-! Packing with and without it. -/

/-- Encrypting comes first, and does not depend on routing. -/
theorem packEncrypted_routed_sound (forwards : options.forward = true)
    (packs : a.packEncrypted m recipient sender signer options e = .ok (packed, e')) :
    ∃ direct between routed,
      a.packEncrypted m recipient sender signer { options with forward := false } e =
        .ok (direct, between) ∧
      direct.delivery = none ∧
      a.route direct.text recipient options between = .ok (routed, e') ∧
      packed = { direct with text := routed.1, delivery := routed.2 } := by
  unfold packEncrypted at packs
  obtain ⟨⟨⟩, checked, packs⟩ := Drawn.lift_bind_eq_ok_iff.mp packs
  obtain ⟨plain, plainMade, packs⟩ := Drawn.lift_bind_eq_ok_iff.mp packs
  obtain ⟨⟨payload, signKid⟩, made, packs⟩ := Drawn.lift_bind_eq_ok_iff.mp packs
  obtain ⟨⟨text, toKids, fromKid⟩, between, encrypts, packs⟩ := Drawn.bind_eq_ok_iff.mp packs
  simp only [forwards] at packs
  obtain ⟨routed, afterRoute, routes, packs⟩ := Drawn.bind_eq_ok_iff.mp packs
  obtain ⟨rfl, rfl⟩ := Drawn.pure_eq_ok_iff.mp packs
  refine ⟨⟨text, toKids, fromKid, signKid, plain.rotationKid, none⟩, between, routed, ?_, rfl,
    routes, rfl⟩
  exact Drawn.lift_bind_eq_ok_iff.mpr ⟨(), checked, Drawn.lift_bind_eq_ok_iff.mpr
    ⟨plain, plainMade, Drawn.lift_bind_eq_ok_iff.mpr ⟨_, made,
    Drawn.bind_eq_ok_iff.mpr ⟨_, between, encrypts, rfl⟩⟩⟩⟩

/-! A recipient behind a mediator, each of them with a key that messages are routed by. -/

def relayKey : Key := .uniform "did:example:mediator#1" 3

def relay : Service where
  id := "did:example:mediator#relay"
  type := Service.messagingType
  endpoint := "https://mediator.example.com"
  routingKeys := ["did:example:mediator#1"]
  accept := [Service.profile]

def inbox : Service where
  id := "did:example:bob#inbox"
  type := Service.messagingType
  endpoint := "did:example:mediator"
  routingKeys := ["did:example:bob#1"]
  accept := []

def mediatorDocument : Document where
  id := "did:example:mediator"
  keyAgreement := ["did:example:mediator#1"]
  authentication := []
  methods := [relayKey.method "did:example:mediator"]
  services := [relay]

def served : Directory :=
  .ofDocuments [mediatorDocument, { bobDocument with services := [inbox] }]

theorem anoncryptKeys_served :
    served.keyless.anoncryptKeys "did:example:bob" = .ok [bobKey.toPublic] ∧
      served.keyless.anoncryptKeys "did:example:bob#1" = .ok [bobKey.toPublic] ∧
      served.keyless.anoncryptKeys "did:example:mediator#1" = .ok [relayKey.toPublic] := by
  have bobs := Key.ofMethod_uniform "did:example:bob#1" 3 "did:example:bob"
  have relays := Key.ofMethod_uniform "did:example:mediator#1" 3 "did:example:mediator"
  refine ⟨anoncryptKeys_of_singleton ?_, anoncryptKeys_of_singleton ?_,
    anoncryptKeys_of_singleton ?_⟩
  · refine bind_eq_ok_iff.mpr ⟨_, rfl, bind_eq_ok_iff.mpr ⟨_, rfl, ?_⟩⟩
    exact mapM_eq_ok_iff.mpr (.cons bobs .nil)
  · exact bind_eq_ok_iff.mpr ⟨_, rfl, bind_eq_ok_iff.mpr ⟨_, rfl, bind_eq_ok_iff.mpr ⟨_, bobs, rfl⟩⟩⟩
  · exact bind_eq_ok_iff.mpr
      ⟨_, rfl, bind_eq_ok_iff.mpr ⟨_, rfl, bind_eq_ok_iff.mpr ⟨_, relays, rfl⟩⟩⟩

theorem exists_wrapOnce_served {kid : String} {before : Entropy} (octet : before.octet = stream.octet)
    (read : Json.read? text = some value) (next : String)
    (found : served.keyless.anoncryptKeys routingKey = .ok [(Key.uniform kid 3).toPublic]) :
    ∃ j after, served.wrapOnce [] .usual text next routingKey before = .ok (Jwe.text j, after) ∧
      after.octet = stream.octet := by
  have reaches : before.Reaches [(Key.uniform kid 3).toPublic] := by
    have drawn := Key.ephemeral_x25519 (before.take 16).2
    rw [take_stream (show (before.take 16).2.octet = stream.octet from octet)] at drawn
    refine ⟨.x25519, _, _, drawn, fun key listed => ?_⟩
    obtain rfl := List.mem_singleton.mp listed
    exact Key.exists_agree_uniform "" kid (by decide +kernel)
  obtain ⟨j, after, wraps, sameOctet⟩ := Directory.wrapOnce_complete read next [] .usual
    (fun id => rfl) found (List.cons_ne_nil _ _) reaches
  exact ⟨j, after, wraps, sameOctet.trans octet⟩

theorem packs_served :
    ∃ packed e', served.keyless.packEncrypted invitation "did:example:bob" none none {} stream =
      .ok (packed, e') := by
  obtain ⟨found, foundUrl, foundRelay⟩ := anoncryptKeys_served
  obtain ⟨j, sealed, encrypts, octet⟩ := encrypt_stream rfl (Utf8.encode invitation.json.text)
    AnonAlgorithm.usual.content Jwe.sized_anon (by simp)
  obtain ⟨inner, between, wrapsInner, octet⟩ := exists_wrapOnce_served octet
    (Json.read?_text j.whole_json j.depth_json) "did:example:bob" foundUrl
  obtain ⟨outer, e', wrapsOuter, -⟩ := exists_wrapOnce_served octet
    (Json.read?_text inner.whole_json inner.depth_json) "did:example:bob#1" foundRelay
  have wraps : served.wrapInForward [] .usual j.text "did:example:bob"
      ["did:example:mediator#1", "did:example:bob#1"] sealed = .ok (outer.text, e') :=
    Drawn.bind_eq_ok_iff.mpr ⟨inner.text, between, Drawn.bind_eq_ok_iff.mpr
      ⟨j.text, sealed, rfl, wrapsInner⟩, wrapsOuter⟩
  have routes : served.keyless.route j.text "did:example:bob" {} sealed =
      .ok ((outer.text, some ⟨inbox.id, relay.endpoint⟩), e') :=
    Drawn.lift_bind_eq_ok_iff.mpr ⟨[relay, inbox], rfl,
      Drawn.bind_eq_ok_iff.mpr ⟨outer.text, e', wraps, rfl⟩⟩
  refine ⟨_, e', Drawn.lift_bind_eq_ok_iff.mpr ⟨(), rfl, Drawn.lift_bind_eq_ok_iff.mpr
    ⟨⟨invitation.json.text, none⟩, rfl, Drawn.lift_bind_eq_ok_iff.mpr ⟨_, rfl,
    Drawn.bind_eq_ok_iff.mpr ⟨(j.text, ["did:example:bob#1"], none), sealed, ?_,
    Drawn.bind_eq_ok_iff.mpr ⟨_, e', routes, rfl⟩⟩⟩⟩⟩⟩
  exact Drawn.lift_bind_eq_ok_iff.mpr ⟨_, found, Drawn.bind_eq_ok_iff.mpr ⟨j, sealed, encrypts, rfl⟩⟩

/-- Routing adds to what is packed without it, on the same stream, and takes nothing back: the text
is wrapped for the keys of the mediator's service and then for those of the recipient's own, which
names the delivery, while the first of the services is delivered to, and never by a DID. On the way
over a mediator it is always wrapped. Without services nothing is added at all. -/
theorem packEncrypted_routes (forwards : options.forward = true)
    (packs : a.packEncrypted m recipient sender signer options e = .ok (packed, e')) :
    ∃ direct between chain,
      a.packEncrypted m recipient sender signer { options with forward := false } e =
        .ok (direct, between) ∧
      packed.toKids = direct.toKids ∧ packed.fromKid = direct.fromKid ∧
      packed.signKid = direct.signKid ∧ packed.rotationKid = direct.rotationKid ∧
      a.directory.serviceChain recipient options.serviceId = .ok chain ∧
      (chain = [] → packed = direct ∧ e' = between) ∧
      (chain ≠ [] → ∃ mediators own, chain = mediators ++ [own] ∧
        a.Routed recipient options mediators own direct.text between
          (packed.text, packed.delivery) e') := by
  obtain ⟨direct, between, routed, packsDirect, undelivered, routes, rfl⟩ :=
    packEncrypted_routed_sound forwards packs
  obtain ⟨chain, resolved, nowhere, somewhere⟩ := route_sound routes
  refine ⟨direct, between, chain, packsDirect, rfl, rfl, rfl, rfl, resolved, ?_, somewhere⟩
  intro empty
  obtain ⟨rfl, rfl⟩ := nowhere empty
  exact ⟨by rw [← undelivered], rfl⟩

theorem packEncrypted_routes_mediated :
    ∃ packed e' direct between,
      served.keyless.packEncrypted invitation "did:example:bob" none none {} stream =
        .ok (packed, e') ∧
      served.keyless.packEncrypted invitation "did:example:bob" none none { forward := false }
        stream = .ok (direct, between) ∧
      packed.toKids = direct.toKids ∧
      packed.delivery = some ⟨"did:example:bob#inbox", "https://mediator.example.com"⟩ ∧
      served.wrapInForward [] .usual direct.text "did:example:bob"
        ["did:example:mediator#1", "did:example:bob#1"] between = .ok (packed.text, e') ∧
      served.Wraps .usual "did:example:mediator#1" packed.text := by
  obtain ⟨packed, e', packs⟩ := packs_served
  obtain ⟨direct, between, chain, packsDirect, toKids, -, -, -, resolved, -, somewhere⟩ :=
    packEncrypted_routes rfl packs
  obtain rfl : [relay, inbox] = chain := Except.ok.inj resolved
  obtain ⟨mediators, own, split, routed⟩ := somewhere (List.cons_ne_nil _ _)
  obtain ⟨rfl, same⟩ : [relay] = mediators ∧ [inbox] = [own] := List.append_inj' split rfl
  obtain rfl := List.singleton_inj.mp same
  obtain ⟨hop, doc, key, isHop, -, -, isFirst, wraps⟩ := routed.mediated (by decide +kernel)
  obtain rfl := List.singleton_inj.mp isHop
  obtain rfl := Option.mem_some.mp isFirst
  exact ⟨packed, e', direct, between, packs, packsDirect, toKids, routed.delivery, routed.wrapped,
    wraps⟩

end Agent

end DidMessaging
