import DidMessaging.Did.Directory
import DidMessaging.Did.Url

namespace DidMessaging.Directory

/-- The service with an id, which must accept our profile, or the first one for messages that does.
-/
def service (did : String) (services : List Service) (id : Option String) :
    Result (Option Service) := do
  match id with
  | some id =>
    let some s := services.find? (·.id = id) | throw (.service did (.notFound id))
    if s.accepts then return some s else throw (.service did (.profile id))
  | none => return services.find? fun s => s.isMessaging && s.accepts

/-- Whether the endpoint of a service is a mediator. -/
def isMediator (endpoint : String) : Bool := (Did.parse? endpoint).isSome

/-- The services from the first hop to that of the recipient; none if it has no service. A mediator
must not rely on another one. -/
def serviceChain (d : Directory) (recipient : String) (id : Option String) :
    Result (List Service) := do
  let did := Did.ofUrl recipient
  let doc ← d.document did
  match ← service did doc.services id with
  | none => return []
  | some s =>
    if !isMediator s.endpoint then return [s]
    let mediator ← d.document s.endpoint
    let some first ← service s.endpoint mediator.services none
      | throw (.service s.endpoint .noMediatorService)
    if isMediator first.endpoint then throw (.service s.endpoint .mediatorOfMediator)
    return [first, s]

end DidMessaging.Directory
