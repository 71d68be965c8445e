import DidMessaging.Text.Graphic
import DidMessaging.Text.GraphemeExtend

namespace DidMessaging.Quoted

/-! Texts in double quotes, with everything escaped that could not be seen or could be taken for
something else. -/

def hexadecimal (n : Nat) : String :=
  String.ofList (Nat.toDigits 16 n)

/-- Stands for itself in every context: it can be seen and does not join the character before it. -/
def isPlain (c : Char) : Bool :=
  c = ' ' || (Graphic.ranges.contains c && !GraphemeExtend.ranges.contains c)

def escaped (c : Char) : String :=
  match c with
  | '"' => "\\\""
  | '\\' => "\\\\"
  | '\n' => "\\n"
  | '\r' => "\\r"
  | '\t' => "\\t"
  | '\x00' => "\\0"
  | c => if isPlain c then c.toString else "\\u\x7b" ++ hexadecimal c.toNat ++ "\x7d"

def text (s : String) : String :=
  "\"" ++ String.join (s.toList.map escaped) ++ "\""

def list (ss : List String) : String :=
  "[" ++ ", ".intercalate (ss.map text) ++ "]"

end DidMessaging.Quoted
