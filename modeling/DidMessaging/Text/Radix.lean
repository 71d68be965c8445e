import DidMessaging.Bits
import DidMessaging.Bytes
import DidMessaging.Pieces

namespace DidMessaging

/-! The bits of the octets, most significant first, are regrouped into digits. Reading is strict:
bits left over at the end must be fewer than a digit and zero, so that no octet string has two
texts. -/

structure Radix where
  width : Nat
  digits : List Char

namespace Radix

def digit? (r : Radix) (c : Char) : Option Nat :=
  r.digits.idxOf? c

def digit (r : Radix) (n : Nat) : Char :=
  r.digits.getD n '\x00'

/-- Zero bits that complete the last digit. -/
def padBits (r : Radix) (bits : List Bool) : List Bool :=
  bits ++ List.replicate ((r.width - bits.length % r.width) % r.width) false

def encode (r : Radix) (bytes : Bytes) : List Char :=
  (chunks r.width (r.padBits (bytes.flatMap (bitsOf 8 ·.toNat)))).map (r.digit <| ofBits ·)

def ofDigits? (r : Radix) (ns : List Nat) : Option Bytes :=
  let (octets, left) := wholeChunks 8 (ns.flatMap (bitsOf r.width))
  if left.length < r.width ∧ left.all (! ·) then
    some (octets.map (UInt8.ofNat <| ofBits ·))
  else none

def decode? (r : Radix) (cs : List Char) : Option Bytes :=
  (cs.mapM r.digit?).bind r.ofDigits?

/-- Digits in a group that ends on an octet. -/
def group (r : Radix) : Nat :=
  8 / Nat.gcd 8 r.width

/-- One group with `=` in place of the digits it lacks; it holds at least one digit. -/
def decodeGroup? (r : Radix) (cs : List Char) : Option Bytes :=
  match cs.reverse.dropWhile (· == '=') with
  | [] => none
  | last :: before => r.decode? (last :: before).reverse

/-- The form that fills the last group with `=`. Texts may follow each other. -/
def decodePadded? (r : Radix) (cs : List Char) : Option Bytes :=
  if cs.length % r.group = 0 then
    ((chunks r.group cs).mapM r.decodeGroup?).map List.flatten
  else none

end Radix

namespace Base64Url

def radix : Radix where
  width := 6
  digits := "ABCDEFGHIJKLMNOPQRSTUVWXYZabcdefghijklmnopqrstuvwxyz0123456789-_".toList

def encode (bytes : Bytes) : String :=
  String.ofList (radix.encode bytes)

def decode? (text : String) : Option Bytes :=
  radix.decode? text.toList

end Base64Url

namespace Hex

def radix : Radix where
  width := 4
  digits := "0123456789abcdef".toList

def encode (bytes : Bytes) : String :=
  String.ofList (radix.encode bytes)

def decode? (text : String) : Option Bytes :=
  radix.decode? text.toList

end Hex

end DidMessaging
