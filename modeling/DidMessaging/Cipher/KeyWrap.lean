import DidMessaging.Cipher.Aes
import DidMessaging.Error

namespace DidMessaging.KeyWrap

/-! The key is cut into pieces of eight octets; six passes mix a check value of eight octets with
each piece, each time with the number of the step. -/

def checkValue : Bytes := List.replicate 8 0xA6

/-- One pass over the pieces; `step` counts from the first of them. -/
def pass (keys : List Aes.Block) :
    (step : Nat) → (check : Bytes) → List Bytes → Bytes × List Bytes
  | _, check, [] => (check, [])
  | step, check, piece :: rest =>
    let block := Aes.encrypt keys (check ++ piece)
    let (check, rest) := pass keys (step + 1) (Bytes.xor (block.take 8) (Bytes.ofNat 8 step)) rest
    (check, block.drop 8 :: rest)

/-- Takes a pass back, from the last piece to the first. -/
def unpass (keys : List Aes.Block) :
    (step : Nat) → (check : Bytes) → List Bytes → Bytes × List Bytes
  | _, check, [] => (check, [])
  | step, check, piece :: rest =>
    let (check, rest) := unpass keys (step + 1) check rest
    let block := Aes.decrypt keys (Bytes.xor check (Bytes.ofNat 8 step) ++ piece)
    (block.take 8, block.drop 8 :: rest)

def passes (keys : List Aes.Block) (turns : List Nat) (check : Bytes) (ps : List Bytes) :
    Bytes × List Bytes :=
  turns.foldl (fun (check, ps) turn => pass keys (ps.length * turn + 1) check ps) (check, ps)

def unpasses (keys : List Aes.Block) (turns : List Nat) (check : Bytes) (ps : List Bytes) :
    Bytes × List Bytes :=
  turns.foldr (fun turn (check, ps) => unpass keys (ps.length * turn + 1) check ps) (check, ps)

def turns : List Nat := List.range 6

def wrap (wrappingKey key : Bytes) : Result Bytes :=
  if wrappingKey.length ≠ 32 then .error (.crypto (.wrappingKeySize wrappingKey.length))
  else if key.length % 8 ≠ 0 then .error (.crypto .wrappedSize)
  else
    let (check, ps) := passes (Aes.roundKeys wrappingKey) turns checkValue (chunks 8 key)
    .ok (check ++ ps.flatten)

def unwrap (wrappingKey wrapped : Bytes) : Result Bytes :=
  if wrappingKey.length ≠ 32 then .error (.crypto (.wrappingKeySize wrappingKey.length))
  else if wrapped.length % 8 ≠ 0 ∨ wrapped.length < 8 then .error (.malformed .wrappedSize)
  else
    let (check, ps) :=
      unpasses (Aes.roundKeys wrappingKey) turns (wrapped.take 8) (chunks 8 (wrapped.drop 8))
    if check = checkValue then .ok ps.flatten else .error (.malformed .wrappedIntegrity)

end DidMessaging.KeyWrap
