import DidMessaging.Agent.Services
import DidMessaging.Proofs.Agent.Keys

namespace DidMessaging

open Result

namespace Directory

variable {d : Directory} {did id recipient : String} {services chain : List Service}
  {chosen : Option String}

/-! Selection. -/

theorem service_eq_ok_iff {found : Option Service} :
    service did services (some id) = .ok found ↔
      ∃ s, services.find? (·.id = id) = some s ∧ s.accepts = true ∧ found = some s := by
  cases listed : services.find? (·.id = id) with
  | none => simp [service, listed]
  | some s =>
      by_cases accepts : s.accepts = true
      · simp only [service, listed, accepts, if_true, pure_eq_ok_iff, Option.some.injEq,
          exists_eq_left', true_and]
        exact eq_comm
      · simp [service, listed, accepts]

theorem service_sound (found : service did services chosen = .ok (some s)) :
    s.accepts = true ∧ (chosen = none → s.isMessaging = true) := by
  cases chosen with
  | none =>
      have both := List.find?_some (Except.ok.inj found)
      simpa [and_comm] using both
  | some id =>
      obtain ⟨s', -, accepts, same⟩ := service_eq_ok_iff.mp found
      obtain rfl := Option.some.inj same
      exact ⟨accepts, by simp⟩

theorem mem_of_service (found : service did services chosen = .ok (some s)) : s ∈ services := by
  cases chosen with
  | none => exact List.mem_of_find?_eq_some (Except.ok.inj found)
  | some id =>
      obtain ⟨s', listed, -, same⟩ := service_eq_ok_iff.mp found
      obtain rfl := Option.some.inj same
      exact List.mem_of_find?_eq_some listed

/-- The ways to a recipient. -/
inductive Route (d : Directory) (recipient : String) (chosen : Option String) :
    List Service → Prop
  | nowhere (known : d.document (Did.ofUrl recipient) = .ok doc)
      (none_ : service (Did.ofUrl recipient) doc.services chosen = .ok none) :
      Route d recipient chosen []
  | direct (known : d.document (Did.ofUrl recipient) = .ok doc)
      (found : service (Did.ofUrl recipient) doc.services chosen = .ok (some s))
      (address : isMediator s.endpoint = false) : Route d recipient chosen [s]
  | mediated (known : d.document (Did.ofUrl recipient) = .ok doc)
      (found : service (Did.ofUrl recipient) doc.services chosen = .ok (some s))
      (mediator : isMediator s.endpoint = true)
      (knownMediator : d.document s.endpoint = .ok mediatorDoc)
      (first : service s.endpoint mediatorDoc.services none = .ok (some hop))
      (address : isMediator hop.endpoint = false) : Route d recipient chosen [hop, s]

theorem serviceChain_eq_ok_iff :
    d.serviceChain recipient chosen = .ok chain ↔ d.Route recipient chosen chain := by
  unfold serviceChain
  constructor
  · intro resolved
    obtain ⟨doc, known, resolved⟩ := bind_eq_ok_iff.mp resolved
    obtain ⟨answer, found, resolved⟩ := bind_eq_ok_iff.mp resolved
    cases answer with
    | none =>
        obtain rfl := pure_eq_ok_iff.mp resolved
        exact .nowhere known found
    | some s =>
        simp only at resolved
        split at resolved
        · next address =>
            obtain rfl := pure_eq_ok_iff.mp resolved
            exact .direct known found (by simpa using address)
        · next mediator =>
            obtain ⟨mediatorDoc, knownMediator, resolved⟩ := bind_eq_ok_iff.mp resolved
            obtain ⟨answer, first, resolved⟩ := bind_eq_ok_iff.mp resolved
            cases answer with
            | none => simp at resolved
            | some hop =>
                simp only [ite_throw_eq_ok_iff] at resolved
                obtain ⟨address, resolved⟩ := resolved
                obtain rfl := pure_eq_ok_iff.mp resolved
                exact .mediated known found (by simpa using mediator) knownMediator first
                  (by simpa using address)
  · intro route
    cases route with
    | nowhere known none_ =>
        exact bind_eq_ok_iff.mpr ⟨_, known, bind_eq_ok_iff.mpr ⟨_, none_, rfl⟩⟩
    | direct known found address =>
        refine bind_eq_ok_iff.mpr ⟨_, known, bind_eq_ok_iff.mpr ⟨_, found, ?_⟩⟩
        simp only [address]
        rfl
    | mediated known found mediator knownMediator first address =>
        refine bind_eq_ok_iff.mpr ⟨_, known, bind_eq_ok_iff.mpr ⟨_, found, ?_⟩⟩
        simp only [mediator]
        refine bind_eq_ok_iff.mpr ⟨_, knownMediator, bind_eq_ok_iff.mpr ⟨_, first, ?_⟩⟩
        simp only [address]
        rfl

namespace Route

theorem accepts (route : d.Route recipient chosen chain) : ∀ s ∈ chain, s.accepts = true := by
  cases route with
  | nowhere known none_ => exact List.forall_mem_nil _
  | direct known found address =>
      exact List.forall_mem_singleton.mpr (service_sound found).1
  | mediated known found mediator knownMediator first address =>
      exact List.forall_mem_cons.mpr
        ⟨(service_sound first).1, List.forall_mem_singleton.mpr (service_sound found).1⟩

theorem isMessaging_dropLast (route : d.Route recipient chosen chain) :
    ∀ s ∈ chain.dropLast, s.isMessaging = true := by
  cases route with
  | nowhere known none_ => exact List.forall_mem_nil _
  | direct known found address => exact List.forall_mem_nil _
  | mediated known found mediator knownMediator first address =>
      exact List.forall_mem_singleton.mpr ((service_sound first).2 rfl)

theorem isMessaging (route : d.Route recipient none chain) :
    ∀ s ∈ chain, s.isMessaging = true := by
  cases route with
  | nowhere known none_ => exact List.forall_mem_nil _
  | direct known found address =>
      exact List.forall_mem_singleton.mpr ((service_sound found).2 rfl)
  | mediated known found mediator knownMediator first address =>
      exact List.forall_mem_cons.mpr
        ⟨(service_sound first).2 rfl, List.forall_mem_singleton.mpr ((service_sound found).2 rfl)⟩

end Route

end Directory

/-! Services of another type. -/

/-- The service as one of another type, if it is the one with the id. -/
def Service.retyped (s : Service) (id type : String) : Service :=
  if s.id = id then { s with type } else s

@[simp] theorem Service.id_retyped (s : Service) (id type : String) :
    (s.retyped id type).id = s.id := by
  unfold retyped
  split <;> rfl

theorem Service.find?_retyped {services : List Service} {s : Service} {id : String}
    (found : services.find? (·.id = id) = some s) (type : String) :
    (services.map (·.retyped id type)).find? (·.id = id) = some { s with type } := by
  have named : s.id = id := by simpa using List.find?_some found
  simp only [List.find?_map, Function.comp_def, id_retyped, found, Option.map_some]
  rw [retyped, if_pos named]

def Document.retyped (doc : Document) (id type : String) : Document :=
  { doc with services := doc.services.map (·.retyped id type) }

namespace Directory

variable {d : Directory} {did id type recipient : String} {chain : List Service}
  {chosen : Option String}

/-- The directory with the services of one id in the document of one DID made of another type. -/
def retyped (d : Directory) (did id type : String) : Directory :=
  { d with documents := d.documents.map fun doc =>
      if doc.id = did then doc.retyped id type else doc }

theorem document_retyped_eq (known : d.document asked = .ok doc) (did id type : String) :
    (d.retyped did id type).document asked =
      .ok (if asked = did then doc.retyped id type else doc) := by
  have kept (doc : Document) : (if doc.id = did then doc.retyped id type else doc).id = doc.id := by
    split <;> rfl
  have named := (mem_of_document known).2
  rw [document_eq_ok_iff] at known ⊢
  rw [retyped, resolve_map kept, known, ← named]
  rfl

theorem document_retyped (known : d.document did = .ok doc) (id type : String) :
    (d.retyped did id type).document did = .ok (doc.retyped id type) := by
  rw [document_retyped_eq known, if_pos rfl]

theorem document_retyped_of_ne (known : d.document asked = .ok doc) (other : asked ≠ did) :
    (d.retyped did id type).document asked = .ok doc := by
  rw [document_retyped_eq known, if_neg other]

theorem service_retyped {services : List Service} {s : Service}
    (found : service did services (some id) = .ok (some s)) (type : String) :
    service did (services.map (·.retyped id type)) (some id) = .ok (some { s with type }) := by
  obtain ⟨s', listed, accepts, same⟩ := service_eq_ok_iff.mp found
  obtain rfl := Option.some.inj same
  exact service_eq_ok_iff.mpr ⟨_, Service.find?_retyped listed type, accepts, rfl⟩

/-- The service that was chosen ends the way to the recipient, and would do so as one of any type. -/
theorem Route.ends (route : d.Route recipient (some id) chain) :
    ∃ doc s, d.document (Did.ofUrl recipient) = .ok doc ∧
      doc.services.find? (·.id = id) = some s ∧ chain = chain.dropLast ++ [s] ∧
      (s.endpoint ≠ Did.ofUrl recipient → ∀ type,
        (d.retyped (Did.ofUrl recipient) id type).Route recipient (some id)
          (chain.dropLast ++ [{ s with type }])) := by
  cases route with
  | nowhere known none_ =>
      obtain ⟨s, -, -, different⟩ := service_eq_ok_iff.mp none_
      contradiction
  | @direct doc s known found address =>
      obtain ⟨s', listed, -, same⟩ := service_eq_ok_iff.mp found
      obtain rfl := Option.some.inj same
      refine ⟨doc, s, known, listed, rfl, ?_⟩
      intro _ type
      exact .direct (document_retyped known id type) (service_retyped found type) address
  | @mediated doc s mediatorDoc hop known found mediator knownMediator first address =>
      obtain ⟨s', listed, -, same⟩ := service_eq_ok_iff.mp found
      obtain rfl := Option.some.inj same
      refine ⟨doc, s, known, listed, rfl, ?_⟩
      intro elsewhere type
      exact .mediated (document_retyped known id type) (service_retyped found type) mediator
        (document_retyped_of_ne knownMediator elsewhere) first address

/-- All services that a message travels through accept our profile, and those of mediators are for
messages; so is the recipient's own, unless it is chosen by its id. Then it is the first one of
that id in the recipient's document, and the way would be the same if it were of any other type. -/
theorem serviceChain_kinds (resolved : d.serviceChain recipient chosen = .ok chain) :
    (∀ s ∈ chain, s.accepts = true) ∧
      (∀ s ∈ chain.dropLast, s.isMessaging = true) ∧
      (chosen = none → ∀ s ∈ chain, s.isMessaging = true) ∧
      ∀ id ∈ chosen, ∃ doc s, d.document (Did.ofUrl recipient) = .ok doc ∧
        doc.services.find? (·.id = id) = some s ∧ chain = chain.dropLast ++ [s] ∧
        (s.endpoint ≠ Did.ofUrl recipient → ∀ type,
          (d.retyped (Did.ofUrl recipient) id type).serviceChain recipient chosen =
            .ok (chain.dropLast ++ [{ s with type }])) := by
  have route := serviceChain_eq_ok_iff.mp resolved
  refine ⟨route.accepts, route.isMessaging_dropLast, ?_, ?_⟩
  · rintro rfl
    exact route.isMessaging
  · rintro id ⟨⟩
    obtain ⟨doc, s, known, listed, ends, others⟩ := route.ends
    refine ⟨doc, s, known, listed, ends, ?_⟩
    intro elsewhere type
    exact serviceChain_eq_ok_iff.mpr (others elsewhere type)

/-! A site that is served in place of messages. -/

def site : Service where
  id := "did:example:bob#site"
  type := "LinkedDomains"
  endpoint := "did:example:mediator"
  routingKeys := []
  accept := []

def mediation : Service where
  id := "did:example:mediator#1"
  type := Service.messagingType
  endpoint := "https://mediator.example.com"
  routingKeys := []
  accept := [Service.profile]

def mediated : Directory :=
  .ofDocuments [⟨"did:example:bob", [], [], [], [site]⟩,
    ⟨"did:example:mediator", [], [], [], [mediation]⟩]

theorem serviceChain_kinds_site :
    mediated.serviceChain "did:example:bob" (some "did:example:bob#site") =
        .ok [mediation, site] ∧
      site.accepts = true ∧ site.isMessaging = false ∧ mediation.isMessaging = true ∧
      (mediated.retyped "did:example:bob" "did:example:bob#site" "Other").serviceChain
          "did:example:bob" (some "did:example:bob#site") =
        .ok [mediation, { site with type := "Other" }] := by
  have resolved : mediated.serviceChain "did:example:bob" (some "did:example:bob#site") =
      .ok [mediation, site] := by
    rfl
  obtain ⟨accepts, messaging, -, own⟩ := serviceChain_kinds resolved
  obtain ⟨doc, s, known, listed, ends, others⟩ := own _ rfl
  obtain rfl : site = s := (List.cons.inj (List.cons.inj ends).2).1
  exact ⟨resolved, accepts site (by simp), by decide, messaging mediation (by simp),
    others (by decide +kernel) "Other"⟩

end Directory

end DidMessaging
