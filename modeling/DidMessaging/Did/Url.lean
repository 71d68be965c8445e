import DidMessaging.Error

namespace DidMessaging.Did

/-! A DID URL is cut at its first `/`, `?` and `#` into a DID, a path, a query and a fragment;
`parse?` accepts it when each part has the form of its kind. -/

def isUrl (value : String) : Bool := value.toList.contains '#'

def endsDid (c : Char) : Bool := c = '#' || c = '?' || c = '/'

def ofUrl (value : String) : String :=
  String.ofList (value.toList.takeWhile (!endsDid ·))

/-- The parts of a DID URL, each with the mark that begins it. -/
structure Parts where
  did : List Char
  path : List Char
  query : List Char
  fragment : List Char
deriving DecidableEq, Repr

namespace Parts

def toList (p : Parts) : List Char := p.did ++ p.path ++ p.query ++ p.fragment

def ofList (cs : List Char) : Parts :=
  let (did, rest) := cs.span (!endsDid ·)
  let (path, rest) := rest.span fun c => c ≠ '?' && c ≠ '#'
  let (query, fragment) := rest.span (· ≠ '#')
  { did, path, query, fragment }

end Parts

def isMethodChar (c : Char) : Bool := c.isLower || c.isDigit

def isIdChar (c : Char) : Bool :=
  c.isAlphanum || c = '.' || c = '_' || c = '%' || c = '-'

/-- Segments between colons, of which only the last must not be empty. -/
def isIdentifier (cs : List Char) : Bool :=
  cs.all (fun c => isIdChar c || c = ':') && (cs.getLast?.any (· ≠ ':'))

def isDid (cs : List Char) : Bool :=
  match cs with
  | 'd' :: 'i' :: 'd' :: ':' :: rest =>
    let (method, rest) := rest.span (· ≠ ':')
    !method.isEmpty && method.all isMethodChar && isIdentifier (rest.drop 1)
  | _ => false

/-- Nothing, or a mark and one or more characters on one line. -/
def isFragment (cs : List Char) : Bool :=
  match cs with
  | [] => true
  | _ :: rest => !rest.isEmpty && rest.all (· ≠ '\n')

structure Url where
  did : String
  fragment : Option String
deriving DecidableEq, Repr

def parse? (value : String) : Option Url :=
  let p := Parts.ofList value.toList
  if isDid p.did && isFragment p.fragment then
    some { did := String.ofList p.did, fragment := p.fragment.tail?.map String.ofList }
  else none

/-- Accepts a DID and nothing after it. -/
def validate (value what : String) : Except Illegal Unit :=
  match parse? value with
  | none => .error (.notDidOrDidUrl value)
  | some url =>
    if url.fragment.isNone && !value.toList.contains '/' && !value.toList.contains '?' then .ok ()
    else .error (.notDid what value)

def validateUrl (value what : String) : Except Illegal Unit :=
  match parse? value with
  | none => .error (.notDidOrDidUrlIn what value)
  | some _ => .ok ()

end DidMessaging.Did
