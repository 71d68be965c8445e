import DidMessaging.Bytes
import DidMessaging.Pieces

namespace DidMessaging.Aes

structure Column where
  (a b c d : UInt8)
deriving DecidableEq, Repr

structure Block where
  (c₀ c₁ c₂ c₃ : Column)
deriving DecidableEq, Repr

namespace Column

def map (f : UInt8 → UInt8) (x : Column) : Column := ⟨f x.a, f x.b, f x.c, f x.d⟩

def xor (x y : Column) : Column := ⟨x.a ^^^ y.a, x.b ^^^ y.b, x.c ^^^ y.c, x.d ^^^ y.d⟩

def rotate (x : Column) : Column := ⟨x.b, x.c, x.d, x.a⟩

def toBytes (x : Column) : Bytes := [x.a, x.b, x.c, x.d]

def ofBytes (bytes : Bytes) : Column :=
  ⟨bytes.getD 0 0, bytes.getD 1 0, bytes.getD 2 0, bytes.getD 3 0⟩

end Column

namespace Block

def map (f : Column → Column) (s : Block) : Block := ⟨f s.c₀, f s.c₁, f s.c₂, f s.c₃⟩

def xor (s t : Block) : Block :=
  ⟨s.c₀.xor t.c₀, s.c₁.xor t.c₁, s.c₂.xor t.c₂, s.c₃.xor t.c₃⟩

def toBytes (s : Block) : Bytes :=
  s.c₀.toBytes ++ s.c₁.toBytes ++ s.c₂.toBytes ++ s.c₃.toBytes

/-- Reads sixteen octets; missing ones are zero. -/
def ofBytes (bytes : Bytes) : Block :=
  ⟨.ofBytes bytes, .ofBytes (bytes.drop 4), .ofBytes (bytes.drop 8), .ofBytes (bytes.drop 12)⟩

end Block

/-- Rows of a table of 256 octets, sixteen in each. -/
def lookup (rows : List Nat) (x : UInt8) : UInt8 :=
  UInt8.ofNat (rows.getD (x.toNat / 16) 0 >>> (8 * (15 - x.toNat % 16)))

/-- The inverse in the field of 256 elements, followed by an affine map. -/
def substitution : List Nat := [
    0x637c777bf26b6fc53001672bfed7ab76,
    0xca82c97dfa5947f0add4a2af9ca472c0,
    0xb7fd9326363ff7cc34a5e5f171d83115,
    0x04c723c31896059a071280e2eb27b275,
    0x09832c1a1b6e5aa0523bd6b329e32f84,
    0x53d100ed20fcb15b6acbbe394a4c58cf,
    0xd0efaafb434d338545f9027f503c9fa8,
    0x51a3408f929d38f5bcb6da2110fff3d2,
    0xcd0c13ec5f974417c4a77e3d645d1973,
    0x60814fdc222a908846eeb814de5e0bdb,
    0xe0323a0a4906245cc2d3ac629195e479,
    0xe7c8376d8dd54ea96c56f4ea657aae08,
    0xba78252e1ca6b4c6e8dd741f4bbd8b8a,
    0x703eb5664803f60e613557b986c11d9e,
    0xe1f8981169d98e949b1e87e9ce5528df,
    0x8ca1890dbfe6426841992d0fb054bb16]

def inverseSubstitution : List Nat := [
    0x52096ad53036a538bf40a39e81f3d7fb,
    0x7ce339829b2fff87348e4344c4dee9cb,
    0x547b9432a6c2233dee4c950b42fac34e,
    0x082ea16628d924b2765ba2496d8bd125,
    0x72f8f66486689816d4a45ccc5d65b692,
    0x6c704850fdedb9da5e154657a78d9d84,
    0x90d8ab008cbcd30af7e45805b8b34506,
    0xd02c1e8fca3f0f02c1afbd0301138a6b,
    0x3a9111414f67dcea97f2cfcef0b4e673,
    0x96ac7422e7ad3585e2f937e81c75df6e,
    0x47f11a711d29c5896fb7620eaa18be1b,
    0xfc563e4bc6d279209adbc0fe78cd5af4,
    0x1fdda8338807c731b11210592780ec5f,
    0x60517fa919b54a0d2de57a9f93c99cef,
    0xa0e03b4dae2af5b0c8ebbb3c83539961,
    0x172b047eba77d626e169146355210c7d]

def substitute (x : UInt8) : UInt8 := lookup substitution x

def unsubstitute (x : UInt8) : UInt8 := lookup inverseSubstitution x

/-- The product with the polynomial `x`. -/
def double (x : UInt8) : UInt8 :=
  (x <<< 1) ^^^ (if x < 0x80 then 0 else 0x1B)

def mixColumn (x : Column) : Column :=
  let mix (p q r s : UInt8) := double p ^^^ double q ^^^ q ^^^ r ^^^ s
  ⟨mix x.a x.b x.c x.d, mix x.b x.c x.d x.a, mix x.c x.d x.a x.b, mix x.d x.a x.b x.c⟩

def unmixColumn (x : Column) : Column :=
  let mix (p q r s : UInt8) :=
    let eight := double (double (double (p ^^^ q ^^^ r ^^^ s)))
    let four := double (double (p ^^^ r))
    let two := double (p ^^^ q)
    eight ^^^ four ^^^ two ^^^ q ^^^ r ^^^ s
  ⟨mix x.a x.b x.c x.d, mix x.b x.c x.d x.a, mix x.c x.d x.a x.b, mix x.d x.a x.b x.c⟩

/-- Row `n` moves left by `n` columns. -/
def shiftRows (s : Block) : Block :=
  ⟨⟨s.c₀.a, s.c₁.b, s.c₂.c, s.c₃.d⟩, ⟨s.c₁.a, s.c₂.b, s.c₃.c, s.c₀.d⟩,
    ⟨s.c₂.a, s.c₃.b, s.c₀.c, s.c₁.d⟩, ⟨s.c₃.a, s.c₀.b, s.c₁.c, s.c₂.d⟩⟩

def unshiftRows (s : Block) : Block :=
  ⟨⟨s.c₀.a, s.c₃.b, s.c₂.c, s.c₁.d⟩, ⟨s.c₁.a, s.c₀.b, s.c₃.c, s.c₂.d⟩,
    ⟨s.c₂.a, s.c₁.b, s.c₀.c, s.c₃.d⟩, ⟨s.c₃.a, s.c₂.b, s.c₁.c, s.c₀.d⟩⟩

/-- Adds a column to the first of a block and each sum to the next. -/
def chain (s : Block) (x : Column) : Block :=
  let c₀ := s.c₀.xor x
  let c₁ := s.c₁.xor c₀
  let c₂ := s.c₂.xor c₁
  ⟨c₀, c₁, c₂, s.c₃.xor c₂⟩

/-- Two round keys at a time, each pair from the one before. -/
def expand : (pairs : Nat) → (constant : UInt8) → Block → Block → List Block
  | 0, _, _, _ => []
  | pairs + 1, constant, p, q =>
    let p' := chain p ((q.c₃.rotate.map substitute).xor ⟨constant, 0, 0, 0⟩)
    let q' := chain q (p'.c₃.map substitute)
    p :: q :: expand pairs (double constant) p' q'

/-- The key of the first step and of the fourteen rounds. -/
def roundKeys (key : Bytes) : List Block :=
  (expand 8 1 (.ofBytes key) (.ofBytes (key.drop 16))).take 15

def rounds : List Block → Block → Block
  | [], s => s
  | [k], s => (shiftRows (s.map (·.map substitute))).xor k
  | k :: ks, s => rounds ks (((shiftRows (s.map (·.map substitute))).map mixColumn).xor k)

def unrounds : List Block → Block → Block
  | [], s => s
  | [k], s => (unshiftRows (s.xor k)).map (·.map unsubstitute)
  | k :: ks, s => (unshiftRows (((unrounds ks s).xor k).map unmixColumn)).map (·.map unsubstitute)

def permute (keys : List Block) (s : Block) : Block :=
  match keys with
  | [] => s
  | k :: ks => rounds ks (s.xor k)

def unpermute (keys : List Block) (s : Block) : Block :=
  match keys with
  | [] => s
  | k :: ks => (unrounds ks s).xor k

def encrypt (keys : List Block) (block : Bytes) : Bytes :=
  (permute keys (.ofBytes block)).toBytes

def decrypt (keys : List Block) (block : Bytes) : Bytes :=
  (unpermute keys (.ofBytes block)).toBytes

@[simp] theorem length_encrypt (keys : List Block) (block : Bytes) :
    (encrypt keys block).length = 16 := rfl

@[simp] theorem length_decrypt (keys : List Block) (block : Bytes) :
    (decrypt keys block).length = 16 := rfl

end DidMessaging.Aes
