import DidMessaging.Bytes
import DidMessaging.Pieces

namespace DidMessaging

/-! SHA-256 and SHA-512 differ in the size of a word, in the distances of their rotations and in
their constants: the first bits of the fractional parts of the square roots (`start`) and cube roots
(`constants`) of the first prime numbers. -/

/-- Machine words with the operations of the round function. -/
class Word (W : Type) extends Add W, XorOp W, AndOp W, Complement W, Inhabited W where
  shiftRight : W → Nat → W
  rotateRight : W → Nat → W
  size : Nat
  ofNat : Nat → W
  toNat : W → Nat

instance : Word UInt32 where
  shiftRight x n := x >>> UInt32.ofNat n
  rotateRight x n := (x >>> UInt32.ofNat n) ||| (x <<< UInt32.ofNat (32 - n))
  size := 4
  ofNat := UInt32.ofNat
  toNat := UInt32.toNat

instance : Word UInt64 where
  shiftRight x n := x >>> UInt64.ofNat n
  rotateRight x n := (x >>> UInt64.ofNat n) ||| (x <<< UInt64.ofNat (64 - n))
  size := 8
  ofNat := UInt64.ofNat
  toNat := UInt64.toNat

structure Sha2 (W : Type) where
  start : List W
  constants : List W
  small₀ : Nat × Nat × Nat
  small₁ : Nat × Nat × Nat
  /-- Distances for a round: three rotations. -/
  large₀ : Nat × Nat × Nat
  large₁ : Nat × Nat × Nat

namespace Sha2

structure State (W : Type) where
  (a b c d e f g h : W)

variable {W : Type} [Word W]

namespace State

def ofList : List W → State W
  | [a, b, c, d, e, f, g, h] => ⟨a, b, c, d, e, f, g, h⟩
  | _ => ⟨default, default, default, default, default, default, default, default⟩

def toList (s : State W) : List W := [s.a, s.b, s.c, s.d, s.e, s.f, s.g, s.h]

def add (s t : State W) : State W :=
  ⟨s.a + t.a, s.b + t.b, s.c + t.c, s.d + t.d, s.e + t.e, s.f + t.f, s.g + t.g, s.h + t.h⟩

end State

@[specialize] def small (n : Nat × Nat × Nat) (x : W) : W :=
  Word.rotateRight x n.1 ^^^ Word.rotateRight x n.2.1 ^^^ Word.shiftRight x n.2.2

@[specialize] def large (n : Nat × Nat × Nat) (x : W) : W :=
  Word.rotateRight x n.1 ^^^ Word.rotateRight x n.2.1 ^^^ Word.rotateRight x n.2.2

@[specialize] def choose (x y z : W) : W := (x &&& y) ^^^ (~~~x &&& z)

@[specialize] def majority (x y z : W) : W := (x &&& y) ^^^ (x &&& z) ^^^ (y &&& z)

/-- The words of the rounds; the window holds the sixteen that come next. -/
@[specialize] def schedule (f : Sha2 W) : (rounds : Nat) → (window : List W) → List W
  | rounds + 1, w :: rest =>
    let next := small f.small₁ (rest.getD 13 default) + rest.getD 8 default
      + small f.small₀ (rest.getD 0 default) + w
    w :: schedule f rounds (rest ++ [next])
  | _, _ => []

@[specialize] def round (f : Sha2 W) (s : State W) (kw : W × W) : State W :=
  let t₁ := s.h + large f.large₁ s.e + choose s.e s.f s.g + kw.1 + kw.2
  let t₂ := large f.large₀ s.a + majority s.a s.b s.c
  ⟨t₁ + t₂, s.a, s.b, s.c, s.d + t₁, s.e, s.f, s.g⟩

def words (block : Bytes) : List W :=
  (chunks (Word.size W) block).map fun b => Word.ofNat (Bytes.toNat b)

@[specialize] def compress (f : Sha2 W) (s : State W) (block : Bytes) : State W :=
  let ws := f.schedule f.constants.length (words block)
  s.add ((f.constants.zip ws).foldl f.round s)

/-- The octets after a message of `n` octets: a one bit, zeros, and the length in bits in two
words. -/
def padding (wordSize n : Nat) : Bytes :=
  0x80 :: Bytes.fill (16 * wordSize) (n + 1 + 2 * wordSize) ++ Bytes.ofNat (2 * wordSize) (8 * n)

@[specialize] def digest (f : Sha2 W) (message : Bytes) : Bytes :=
  let padded := message ++ padding (Word.size W) message.length
  let final := (chunks (16 * Word.size W) padded).foldl f.compress (State.ofList f.start)
  final.toList.flatMap fun w => Bytes.ofNat (Word.size W) (Word.toNat w)

end Sha2

def sha256Family : Sha2 UInt32 where
  start := [
    1779033703, 3144134277, 1013904242, 2773480762, 1359893119, 2600822924, 528734635,
    1541459225]
  constants := [
    1116352408, 1899447441, 3049323471, 3921009573, 961987163, 1508970993, 2453635748,
    2870763221, 3624381080, 310598401, 607225278, 1426881987, 1925078388, 2162078206,
    2614888103, 3248222580, 3835390401, 4022224774, 264347078, 604807628, 770255983, 1249150122,
    1555081692, 1996064986, 2554220882, 2821834349, 2952996808, 3210313671, 3336571891,
    3584528711, 113926993, 338241895, 666307205, 773529912, 1294757372, 1396182291, 1695183700,
    1986661051, 2177026350, 2456956037, 2730485921, 2820302411, 3259730800, 3345764771,
    3516065817, 3600352804, 4094571909, 275423344, 430227734, 506948616, 659060556, 883997877,
    958139571, 1322822218, 1537002063, 1747873779, 1955562222, 2024104815, 2227730452,
    2361852424, 2428436474, 2756734187, 3204031479, 3329325298]
  small₀ := (7, 18, 3)
  small₁ := (17, 19, 10)
  large₀ := (2, 13, 22)
  large₁ := (6, 11, 25)

def sha512Family : Sha2 UInt64 where
  start := [
    7640891576956012808, 13503953896175478587, 4354685564936845355, 11912009170470909681,
    5840696475078001361, 11170449401992604703, 2270897969802886507, 6620516959819538809]
  constants := [
    4794697086780616226, 8158064640168781261, 13096744586834688815, 16840607885511220156,
    4131703408338449720, 6480981068601479193, 10538285296894168987, 12329834152419229976,
    15566598209576043074, 1334009975649890238, 2608012711638119052, 6128411473006802146,
    8268148722764581231, 9286055187155687089, 11230858885718282805, 13951009754708518548,
    16472876342353939154, 17275323862435702243, 1135362057144423861, 2597628984639134821,
    3308224258029322869, 5365058923640841347, 6679025012923562964, 8573033837759648693,
    10970295158949994411, 12119686244451234320, 12683024718118986047, 13788192230050041572,
    14330467153632333762, 15395433587784984357, 489312712824947311, 1452737877330783856,
    2861767655752347644, 3322285676063803686, 5560940570517711597, 5996557281743188959,
    7280758554555802590, 8532644243296465576, 9350256976987008742, 10552545826968843579,
    11727347734174303076, 12113106623233404929, 14000437183269869457, 14369950271660146224,
    15101387698204529176, 15463397548674623760, 17586052441742319658, 1182934255886127544,
    1847814050463011016, 2177327727835720531, 2830643537854262169, 3796741975233480872,
    4115178125766777443, 5681478168544905931, 6601373596472566643, 7507060721942968483,
    8399075790359081724, 8693463985226723168, 9568029438360202098, 10144078919501101548,
    10430055236837252648, 11840083180663258601, 13761210420658862357, 14299343276471374635,
    14566680578165727644, 15097957966210449927, 16922976911328602910, 17689382322260857208,
    500013540394364858, 748580250866718886, 1242879168328830382, 1977374033974150939,
    2944078676154940804, 3659926193048069267, 4368137639120453308, 4836135668995329356,
    5532061633213252278, 6448918945643986474, 6902733635092675308, 7801388544844847127]
  small₀ := (1, 8, 7)
  small₁ := (19, 61, 6)
  large₀ := (28, 34, 39)
  large₁ := (14, 18, 41)

def sha256 (message : Bytes) : Bytes := sha256Family.digest message

def sha512 (message : Bytes) : Bytes := sha512Family.digest message

end DidMessaging
