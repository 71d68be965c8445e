import DidMessaging.Json.Number
import DidMessaging.Text.Utf8

namespace DidMessaging.Json

/-! A string that holds no text (an octet that is no character, half of a surrogate pair) and a
number that is too large are lexemes without a value. -/

abbrev Scanned := List (Option Char)

def scanned (s : String) : Scanned := s.toList.map some

inductive Token
  | openObject
  | closeObject
  | openArray
  | closeArray
  | colon
  | comma
  | null
  | bool (b : Bool)
  | number (n : Option Number)
  | string (s : Option String)
deriving DecidableEq, Repr

namespace Token

def isBlank (c : Char) : Bool :=
  c = ' ' || c = '\n' || c = '\t' || c = '\r'

def digits : Scanned → List Nat × Scanned
  | some c :: rest =>
    if c.isDigit then
      let (ds, after) := digits rest
      ((c.toNat - 48) :: ds, after)
    else ([], some c :: rest)
  | cs => ([], cs)

/-- A whole part: one zero, or digits that start with another. -/
def whole? : Scanned → Option (List Nat × Scanned)
  | some '0' :: rest => some ([0], rest)
  | cs =>
    match digits cs with
    | ([], _) => none
    | found => some found

def fraction? : Scanned → Option (List Nat × Scanned)
  | some '.' :: rest =>
    match digits rest with
    | ([], _) => none
    | found => some found
  | cs => some ([], cs)

def exponentDigits? (negative : Bool) (cs : Scanned) :
    Option (Option (Bool × List Nat) × Scanned) :=
  match digits cs with
  | ([], _) => none
  | (ds, rest) => some (some (negative, ds), rest)

def exponentSign? : Scanned → Option (Option (Bool × List Nat) × Scanned)
  | some '+' :: rest => exponentDigits? false rest
  | some '-' :: rest => exponentDigits? true rest
  | cs => exponentDigits? false cs

def exponent? : Scanned → Option (Option (Bool × List Nat) × Scanned)
  | some 'e' :: rest => exponentSign? rest
  | some 'E' :: rest => exponentSign? rest
  | cs => some (none, cs)

def magnitude? (negative : Bool) (cs : Scanned) : Option (Number.Lexeme × Scanned) := do
  let (whole, cs) ← whole? cs
  let (fraction, cs) ← fraction? cs
  let (exponent, cs) ← exponent? cs
  return (⟨negative, whole, fraction, exponent⟩, cs)

def number? : Scanned → Option (Number.Lexeme × Scanned)
  | some '-' :: rest => magnitude? true rest
  | cs => magnitude? false cs

/-- What stands for a character in a string: itself, or a number of 16 bits in hexadecimal. -/
inductive Piece
  | scalar (c : Option Char)
  | unit (n : Nat)
deriving DecidableEq, Repr

def hexDigit? (c : Option Char) : Option Nat := do
  let c ← c
  if c.isDigit then some (c.toNat - 48)
  else if 'a' ≤ c ∧ c ≤ 'f' then some (c.toNat - 87)
  else if 'A' ≤ c ∧ c ≤ 'F' then some (c.toNat - 55)
  else none

def unit? (a b c d : Option Char) : Option Nat := do
  let a ← hexDigit? a
  let b ← hexDigit? b
  let c ← hexDigit? c
  let d ← hexDigit? d
  return a * 4096 + b * 256 + c * 16 + d

def escape? : Option Char → Option Char
  | some '"' => some '"'
  | some '\\' => some '\\'
  | some '/' => some '/'
  | some 'b' => some '\x08'
  | some 'f' => some '\x0c'
  | some 'n' => some '\n'
  | some 'r' => some '\r'
  | some 't' => some '\t'
  | _ => none

/-- The pieces up to the closing quote, after those in `done`, and what follows the quote. -/
def pieces? (done : List Piece) : Scanned → Option (List Piece × Scanned)
  | [] => none
  | some '"' :: rest => some (done.reverse, rest)
  | some '\\' :: some 'u' :: a :: b :: c :: d :: rest =>
    (unit? a b c d).bind fun n => pieces? (.unit n :: done) rest
  | some '\\' :: e :: rest =>
    (escape? e).bind fun c => pieces? (.scalar (some c) :: done) rest
  | some c :: rest =>
    if c.toNat < 0x20 ∨ c = '\\' then none else pieces? (.scalar (some c) :: done) rest
  | none :: rest => pieces? (.scalar none :: done) rest

/-- The text of a string: two units of a surrogate pair are one character. -/
def joined? : List Piece → Option (List Char)
  | [] => some []
  | .scalar c :: rest => c.bind fun c => (joined? rest).map (c :: ·)
  | .unit h :: .unit l :: rest =>
    if h < 0xD800 ∨ 0xE000 ≤ h then (joined? (.unit l :: rest)).map (Char.ofNat h :: ·)
    else if h < 0xDC00 ∧ 0xDC00 ≤ l ∧ l < 0xE000 then
      (joined? rest).map (Char.ofNat (0x10000 + (h - 0xD800) * 1024 + (l - 0xDC00)) :: ·)
    else none
  | .unit h :: rest =>
    if h < 0xD800 ∨ 0xE000 ≤ h then (joined? rest).map (Char.ofNat h :: ·) else none

def string? (cs : Scanned) : Option (Option String × Scanned) :=
  (pieces? [] cs).map fun (ps, rest) => ((joined? ps).map String.ofList, rest)

def word? (c : Char) (cs : Scanned) : Option (Token × Scanned) :=
  match c, cs with
  | 'n', some 'u' :: some 'l' :: some 'l' :: rest => some (.null, rest)
  | 't', some 'r' :: some 'u' :: some 'e' :: rest => some (.bool true, rest)
  | 'f', some 'a' :: some 'l' :: some 's' :: some 'e' :: rest => some (.bool false, rest)
  | _, _ => none

def next? (c : Char) (rest : Scanned) : Option (Token × Scanned) :=
  match c with
  | '\x7b' => some (.openObject, rest)
  | '\x7d' => some (.closeObject, rest)
  | '[' => some (.openArray, rest)
  | ']' => some (.closeArray, rest)
  | ':' => some (.colon, rest)
  | ',' => some (.comma, rest)
  | '"' => (string? rest).map fun (s, rest) => (.string s, rest)
  | c =>
    if c = '-' ∨ c.isDigit then
      (number? (some c :: rest)).map fun (l, rest) => (.number l.value?, rest)
    else word? c rest

def all? : (fuel : Nat) → Scanned → Option (List Token)
  | _, [] => some []
  | 0, _ => none
  | _ + 1, none :: _ => none
  | fuel + 1, some c :: rest =>
    if isBlank c then all? fuel rest
    else (next? c rest).bind fun (t, rest) => (all? fuel rest).map (t :: ·)

def lex? (cs : Scanned) : Option (List Token) :=
  all? cs.length cs

end Token

end DidMessaging.Json
