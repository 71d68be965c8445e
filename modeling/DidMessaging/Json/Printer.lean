import DidMessaging.Json.Value

namespace DidMessaging.Json

def hexDigit (n : Nat) : Char :=
  "0123456789abcdef".toList.getD n '0'

def escaped (c : Char) : List Char :=
  match c with
  | '"' => ['\\', '"']
  | '\\' => ['\\', '\\']
  | '\x08' => ['\\', 'b']
  | '\x09' => ['\\', 't']
  | '\x0a' => ['\\', 'n']
  | '\x0c' => ['\\', 'f']
  | '\x0d' => ['\\', 'r']
  | c =>
    if c.toNat < 0x20 then
      ['\\', 'u', '0', '0', hexDigit (c.toNat / 16), hexDigit (c.toNat % 16)]
    else [c]

def quoted (s : String) : List Char :=
  '"' :: s.toList.flatMap escaped ++ ['"']

mutual

def chars : Json → List Char
  | .null => ['n', 'u', 'l', 'l']
  | .bool true => ['t', 'r', 'u', 'e']
  | .bool false => ['f', 'a', 'l', 's', 'e']
  | .number n => n.text
  | .string s => quoted s
  | .array items => '[' :: itemChars items
  | .object members => '\x7b' :: memberChars members

def itemChars : List Json → List Char
  | [] => [']']
  | [j] => j.chars ++ [']']
  | j :: rest => j.chars ++ ',' :: itemChars rest

def memberChars : List (String × Json) → List Char
  | [] => ['\x7d']
  | [(name, j)] => quoted name ++ ':' :: j.chars ++ ['\x7d']
  | (name, j) :: rest => quoted name ++ ':' :: j.chars ++ ',' :: memberChars rest

end

def text (j : Json) : String :=
  String.ofList j.chars

end DidMessaging.Json
