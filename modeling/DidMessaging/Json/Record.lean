import DidMessaging.Json.Tree

namespace DidMessaging.Json

/-! A record is written as an object, whose unknown members are passed over, or as an array of its
fields in their declared order, in which fields with a default may be cut from the end. -/

namespace Tree

def string? : Tree → Option String
  | .string s => some s
  | _ => none

def bool? : Tree → Option Bool
  | .bool b => some b
  | _ => none

def nat? : Tree → Option UInt64
  | .number (.nat n) => some n
  | _ => none

def list? (f : Tree → Option α) : Tree → Option (List α)
  | .array items => items.mapM f
  | _ => none

def strings? : Tree → Option (List String) := list? string?

/-- `null` stands for an absent value. -/
def optional? (f : Tree → Option α) : Tree → Option (Option α)
  | .null => some none
  | t => (f t).map some

/-- A name that stands for a value, alone or as the only member of an object. -/
def tag? (f : String → Option α) : Tree → Option α
  | .string s => f s
  | .object [(some name, .null)] => f name
  | _ => none

def members? : Tree → Option (List (String × Tree))
  | .object members => members.mapM fun (name, t) => name.map (·, t)
  | _ => none

end Tree

abbrev Fields := List (String × Tree)

namespace Fields

/-- The members with one of the names; none may occur twice. -/
def known? (names : List String) (members : List (String × Tree)) : Option Fields :=
  let fields := members.filter fun m => names.contains m.1
  if (fields.map Prod.fst).Nodup then some fields else none

/-- The fields of a record with the given names. In an array the first `least` must be there. -/
def read? (names : List String) (least : Nat) : Tree → Option Fields
  | .array items =>
    if least ≤ items.length ∧ items.length ≤ names.length then some (names.zip items) else none
  | t => t.members?.bind (known? names)

def required? (fields : Fields) (name : String) (f : Tree → Option α) : Option α :=
  (fields.lookup name).bind f

def optional? (fields : Fields) (name : String) (f : Tree → Option α) : Option (Option α) :=
  match fields.lookup name with
  | none => some none
  | some t => t.optional? f

/-- A field that has a value also when it is not written. -/
def defaulted? (fields : Fields) (name : String) (value : α) (f : Tree → Option α) : Option α :=
  match fields.lookup name with
  | none => some value
  | some t => f t

/-- An object that keeps what it does not know: its fields, and the other members, which must have
values. -/
def open? (names : List String) (t : Tree) : Option (Fields × List (String × Tree)) := do
  let members ← t.members?
  let fields ← known? names members
  let others := members.filter fun m => !names.contains m.1
  guard (others.all fun m => m.2.json?.isSome)
  return (fields, others)

end Fields

end DidMessaging.Json
