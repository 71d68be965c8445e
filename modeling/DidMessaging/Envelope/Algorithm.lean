import DidMessaging.Cipher.Algorithm
import DidMessaging.Error

namespace DidMessaging

inductive AuthAlgorithm
  | a256cbcHs512
deriving DecidableEq, Repr

/-- An algorithm without a sender is one for the content. -/
structure AnonAlgorithm where
  content : ContentAlgorithm
deriving DecidableEq, Repr

namespace AuthAlgorithm

def agreement : String := "ECDH-1PU+A256KW"

def content : AuthAlgorithm → ContentAlgorithm
  | .a256cbcHs512 => .a256cbcHs512

def name (a : AuthAlgorithm) : String := a.content.name ++ "+" ++ agreement

def named? (name : String) : Option AuthAlgorithm :=
  if name = AuthAlgorithm.name .a256cbcHs512 then some .a256cbcHs512 else none

def usual : AuthAlgorithm := .a256cbcHs512

end AuthAlgorithm

namespace AnonAlgorithm

def agreement : String := "ECDH-ES+A256KW"

def name (a : AnonAlgorithm) : String := a.content.name ++ "+" ++ agreement

def all : List AnonAlgorithm := [⟨.a256cbcHs512⟩, ⟨.xc20p⟩, ⟨.a256gcm⟩]

def named? (name : String) : Option AnonAlgorithm := all.find? (·.name = name)

def usual : AnonAlgorithm := ⟨.xc20p⟩

end AnonAlgorithm

inductive EnvelopeAlgorithm
  | auth (a : AuthAlgorithm)
  | anon (a : AnonAlgorithm)
deriving DecidableEq, Repr

namespace EnvelopeAlgorithm

def agreement : EnvelopeAlgorithm → String
  | .auth _ => AuthAlgorithm.agreement
  | .anon _ => AnonAlgorithm.agreement

def content : EnvelopeAlgorithm → ContentAlgorithm
  | .auth a => a.content
  | .anon a => a.content

def name : EnvelopeAlgorithm → String
  | .auth a => a.name
  | .anon a => a.name

def ofHeader (alg enc : String) : Result EnvelopeAlgorithm :=
  let unknown : Result EnvelopeAlgorithm := .error (.malformed (.algorithms alg enc))
  match ContentAlgorithm.named? enc with
  | none => unknown
  | some content =>
    if alg = AnonAlgorithm.agreement then .ok (.anon ⟨content⟩)
    else if alg = AuthAlgorithm.agreement ∧ content = .a256cbcHs512 then .ok (.auth .a256cbcHs512)
    else unknown

end EnvelopeAlgorithm

end DidMessaging
