import DidMessaging.Json.Number

namespace DidMessaging

/-! The members of an object stand in a list; in a canonical value they are sorted by name, each
name once, and `sorted` makes any value canonical. -/

inductive Json
  | null
  | bool (b : Bool)
  | number (n : Number)
  | string (s : String)
  | array (items : List Json)
  | object (members : List (String × Json))
deriving Repr, Inhabited

/-- Members of an object, sorted by name where they form a map. -/
abbrev Members := List (String × Json)

namespace Members

/-- Puts a member where its name belongs, in place of one of that name. -/
def insert (name : String) (value : α) : List (String × α) → List (String × α)
  | [] => [(name, value)]
  | (n, v) :: rest =>
    if name < n then (name, value) :: (n, v) :: rest
    else if name = n then (name, value) :: rest
    else (n, v) :: insert name value rest

/-- The map that the members make when they are put in one after the other. -/
def ofList (members : List (String × α)) : List (String × α) :=
  members.foldl (fun map m => insert m.1 m.2 map) []

def find? (name : String) (members : List (String × α)) : Option α :=
  members.lookup name

def names (members : List (String × α)) : List String :=
  members.map Prod.fst

/-- The names ascend, so each occurs once. -/
def Sorted (members : List (String × α)) : Prop :=
  List.Pairwise (· < ·) (names members)

end Members

namespace Json

def ofNat (n : Nat) : Json := .number (.ofNat n)

def strings (ss : List String) : Json := .array (ss.map .string)

def ofOption (f : α → Json) : Option α → Json
  | none => .null
  | some a => f a

def optional (name : String) (f : α → Json) : Option α → Members
  | none => []
  | some a => [(name, f a)]

mutual

/-- The canonical form: of several members with one name the last counts. -/
def sorted : Json → Json
  | .array items => .array (sortedItems items)
  | .object members => .object (Members.ofList (sortedMembers members))
  | j => j

def sortedItems : List Json → List Json
  | [] => []
  | j :: rest => j.sorted :: sortedItems rest

def sortedMembers : List (String × Json) → List (String × Json)
  | [] => []
  | (name, j) :: rest => (name, j.sorted) :: sortedMembers rest

end

mutual

def Canonical : Json → Prop
  | .array items => CanonicalItems items
  | .object members => Members.Sorted members ∧ CanonicalMembers members
  | _ => True

def CanonicalItems : List Json → Prop
  | [] => True
  | j :: rest => j.Canonical ∧ CanonicalItems rest

def CanonicalMembers : List (String × Json) → Prop
  | [] => True
  | (_, j) :: rest => j.Canonical ∧ CanonicalMembers rest

end

mutual

/-- How many arrays and objects lie inside each other. -/
def depth : Json → Nat
  | .array items => itemsDepth items + 1
  | .object members => membersDepth members + 1
  | _ => 0

def itemsDepth : List Json → Nat
  | [] => 0
  | j :: rest => max j.depth (itemsDepth rest)

def membersDepth : List (String × Json) → Nat
  | [] => 0
  | (_, j) :: rest => max j.depth (membersDepth rest)

end

end Json

end DidMessaging
