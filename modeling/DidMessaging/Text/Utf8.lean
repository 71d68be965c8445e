import DidMessaging.Bytes

namespace DidMessaging.Utf8

/-! Reading goes octet by octet and marks what is no character, so that a reader may decide itself
whether it minds; `decode?` minds. -/

def encodeChar (c : Char) : Bytes :=
  let n := c.toNat
  if n < 0x80 then [UInt8.ofNat n]
  else if n < 0x800 then [UInt8.ofNat (0xC0 + n / 64), UInt8.ofNat (0x80 + n % 64)]
  else if n < 0x10000 then
    [UInt8.ofNat (0xE0 + n / 4096), UInt8.ofNat (0x80 + n / 64 % 64), UInt8.ofNat (0x80 + n % 64)]
  else
    [UInt8.ofNat (0xF0 + n / 262144), UInt8.ofNat (0x80 + n / 4096 % 64),
      UInt8.ofNat (0x80 + n / 64 % 64), UInt8.ofNat (0x80 + n % 64)]

def encode (s : String) : Bytes :=
  s.toList.flatMap encodeChar

def continuation? (b : UInt8) : Option Nat :=
  if 0x80 ≤ b.toNat ∧ b.toNat < 0xC0 then some (b.toNat - 0x80) else none

/-- The character of a code point in its range for the length of the sequence. -/
def scalar? (least n : Nat) : Option Char :=
  if least ≤ n ∧ n.isValidChar then some (Char.ofNat n) else none

def two? (a b : UInt8) : Option Char := do
  guard (0xC0 ≤ a.toNat ∧ a.toNat < 0xE0)
  let y ← continuation? b
  scalar? 0x80 ((a.toNat - 0xC0) * 64 + y)

def three? (a b c : UInt8) : Option Char := do
  guard (0xE0 ≤ a.toNat ∧ a.toNat < 0xF0)
  let y ← continuation? b
  let z ← continuation? c
  scalar? 0x800 ((a.toNat - 0xE0) * 4096 + y * 64 + z)

def four? (a b c d : UInt8) : Option Char := do
  guard (0xF0 ≤ a.toNat ∧ a.toNat < 0xF8)
  let y ← continuation? b
  let z ← continuation? c
  let w ← continuation? d
  scalar? 0x10000 ((a.toNat - 0xF0) * 262144 + y * 4096 + z * 64 + w)

/-- The character that `a` begins and how many of the octets after it belong to it. -/
def first? (a : UInt8) (rest : Bytes) : Option (Char × Nat) :=
  if a.toNat < 0x80 then some (Char.ofNat a.toNat, 0)
  else match rest with
    | b :: c :: d :: _ =>
      ((two? a b).map (·, 1)).or (((three? a b c).map (·, 2)).or ((four? a b c d).map (·, 3)))
    | [b, c] => ((two? a b).map (·, 1)).or ((three? a b c).map (·, 2))
    | [b] => (two? a b).map (·, 1)
    | [] => none

def scanFrom : (skip : Nat) → Bytes → List (Option Char)
  | _, [] => []
  | skip + 1, _ :: rest => scanFrom skip rest
  | 0, a :: rest =>
    match first? a rest with
    | some (c, skip) => some c :: scanFrom skip rest
    | none => none :: scanFrom 0 rest

/-- The characters of an octet string; an octet that begins none stands as `none`. -/
def scan (bytes : Bytes) : List (Option Char) :=
  scanFrom 0 bytes

def decode? (bytes : Bytes) : Option String :=
  ((scan bytes).mapM id).map String.ofList

theorem scanFrom_append_of_length {skip : Nat} {a : Bytes} (h : a.length = skip) (b : Bytes) :
    scanFrom skip (a ++ b) = scan b := by
  induction a generalizing skip with
  | nil => subst h; rfl
  | cons x a ih => subst h; exact ih rfl

end DidMessaging.Utf8
