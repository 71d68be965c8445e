import DidMessaging.Text.Radix
import DidMessaging.Text.Positional
import DidMessaging.Text.Utf8

namespace DidMessaging

inductive Multibase
  | identity
  | plain (radix : Radix)
  | padded (radix : Radix)
  | positional (alphabet : List Char)

namespace Multibase

def base2 : Radix := ⟨1, "01".toList⟩

def base8 : Radix := ⟨3, "01234567".toList⟩

def base16Upper : Radix := ⟨4, "0123456789ABCDEF".toList⟩

def base32 : Radix := ⟨5, "abcdefghijklmnopqrstuvwxyz234567".toList⟩

def base32Upper : Radix := ⟨5, "ABCDEFGHIJKLMNOPQRSTUVWXYZ234567".toList⟩

def base32Hex : Radix := ⟨5, "0123456789abcdefghijklmnopqrstuv".toList⟩

def base32HexUpper : Radix := ⟨5, "0123456789ABCDEFGHIJKLMNOPQRSTUV".toList⟩

def base32Z : Radix := ⟨5, "ybndrfg8ejkmcpqxot1uwisza345h769".toList⟩

def base64 : Radix :=
  ⟨6, "ABCDEFGHIJKLMNOPQRSTUVWXYZabcdefghijklmnopqrstuvwxyz0123456789+/".toList⟩

def base10 : List Char := "0123456789".toList

def base58Flickr : List Char :=
  "123456789abcdefghijkmnopqrstuvwxyzABCDEFGHJKLMNPQRSTUVWXYZ".toList

def named? : Char → Option Multibase
  | '\x00' => some .identity
  | '0' => some (.plain base2)
  | '7' => some (.plain base8)
  | '9' => some (.positional base10)
  | 'f' => some (.plain Hex.radix)
  | 'F' => some (.plain base16Upper)
  | 'b' => some (.plain base32)
  | 'B' => some (.plain base32Upper)
  | 'c' => some (.padded base32)
  | 'C' => some (.padded base32Upper)
  | 'v' => some (.plain base32Hex)
  | 'V' => some (.plain base32HexUpper)
  | 't' => some (.padded base32Hex)
  | 'T' => some (.padded base32HexUpper)
  | 'h' => some (.plain base32Z)
  | 'Z' => some (.positional base58Flickr)
  | 'z' => some (.positional Base58.alphabet)
  | 'm' => some (.plain base64)
  | 'M' => some (.padded base64)
  | 'u' => some (.plain Base64Url.radix)
  | 'U' => some (.padded Base64Url.radix)
  | _ => none

def decodeDigits? : Multibase → List Char → Option Bytes
  | .identity, cs => some (cs.flatMap Utf8.encodeChar)
  | .plain radix, cs => radix.decode? cs
  | .padded radix, cs => radix.decodePadded? cs
  | .positional alphabet, cs => Positional.decode? alphabet cs

def decode? (text : String) : Option Bytes :=
  match text.toList with
  | [] => none
  | c :: cs => (named? c).bind (·.decodeDigits? cs)

end Multibase

end DidMessaging
