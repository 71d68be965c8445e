import DidMessaging.Json.Token
import DidMessaging.Json.Value

namespace DidMessaging.Json

/-! A document as written: members in order, repeated names included. A part may be well formed and
still have no value; it does harm only where it is read. -/

inductive Tree
  /-- Has no value: a string without text, a number that is too large, or an array or object that
  lies too deep. -/
  | illegible
  | null
  | bool (b : Bool)
  | number (n : Number)
  | string (s : String)
  | array (items : List Tree)
  | object (members : List (Option String × Tree))
deriving Repr, Inhabited

namespace Tree

/-- Arrays and objects inside each other that can be read. -/
def deepest : Nat := 127

mutual

/-- Reads one value; `room` is how many more arrays and objects may be opened. -/
def parseValue? : (fuel : Nat) → (room : Nat) → List Token → Option (Tree × List Token)
  | 0, _, _ => none
  | fuel + 1, room, token :: rest =>
    match token with
    | .null => some (.null, rest)
    | .bool b => some (.bool b, rest)
    | .number n => some (n.elim .illegible .number, rest)
    | .string s => some (s.elim .illegible .string, rest)
    | .openArray =>
      (match rest with
        | .closeArray :: rest => some ([], rest)
        | _ => parseItems? fuel (room - 1) rest).map fun (items, rest) =>
          (if room = 0 then .illegible else .array items, rest)
    | .openObject =>
      (match rest with
        | .closeObject :: rest => some ([], rest)
        | _ => parseMembers? fuel (room - 1) rest).map fun (members, rest) =>
          (if room = 0 then .illegible else .object members, rest)
    | _ => none
  | _, _, [] => none

def parseItems? : (fuel : Nat) → (room : Nat) → List Token → Option (List Tree × List Token)
  | 0, _, _ => none
  | fuel + 1, room, tokens =>
    (parseValue? fuel room tokens).bind fun (t, rest) =>
      match rest with
      | .closeArray :: rest => some ([t], rest)
      | .comma :: rest => (parseItems? fuel room rest).map fun (ts, rest) => (t :: ts, rest)
      | _ => none

def parseMembers? : (fuel : Nat) → (room : Nat) → List Token →
    Option (List (Option String × Tree) × List Token)
  | 0, _, _ => none
  | fuel + 1, room, tokens =>
    match tokens with
    | .string name :: .colon :: rest =>
      (parseValue? fuel room rest).bind fun (t, rest) =>
        match rest with
        | .closeObject :: rest => some ([(name, t)], rest)
        | .comma :: rest =>
          (parseMembers? fuel room rest).map fun (ms, rest) => ((name, t) :: ms, rest)
        | _ => none
    | _ => none

end

def ofTokens? (tokens : List Token) : Option Tree :=
  match parseValue? (2 * tokens.length) deepest tokens with
  | some (t, []) => some t
  | _ => none

def ofScanned? (cs : Scanned) : Option Tree :=
  (Token.lex? cs).bind ofTokens?

def read? (text : String) : Option Tree :=
  ofScanned? (scanned text)

def readBytes? (bytes : Bytes) : Option Tree :=
  ofScanned? (Utf8.scan bytes)

mutual

/-- The value of a document: of several members with one name the last counts. -/
def json? : Tree → Option Json
  | .illegible => none
  | .null => some .null
  | .bool b => some (.bool b)
  | .number n => some (.number n)
  | .string s => some (.string s)
  | .array items => (jsonItems? items).map .array
  | .object members => (jsonMembers? members).map fun ms => .object (Members.ofList ms)

def jsonItems? : List Tree → Option (List Json)
  | [] => some []
  | t :: rest => t.json?.bind fun j => (jsonItems? rest).map (j :: ·)

def jsonMembers? : List (Option String × Tree) → Option (List (String × Json))
  | [] => some []
  | (name, t) :: rest =>
    name.bind fun name => t.json?.bind fun j => (jsonMembers? rest).map ((name, j) :: ·)

end

mutual

def ofJson : Json → Tree
  | .null => .null
  | .bool b => .bool b
  | .number n => .number n
  | .string s => .string s
  | .array items => .array (ofItems items)
  | .object members => .object (ofMembers members)

def ofItems : List Json → List Tree
  | [] => []
  | j :: rest => ofJson j :: ofItems rest

def ofMembers : List (String × Json) → List (Option String × Tree)
  | [] => []
  | (name, j) :: rest => (some name, ofJson j) :: ofMembers rest

end

end Tree

def read? (text : String) : Option Json :=
  (Tree.read? text).bind Tree.json?

end DidMessaging.Json
