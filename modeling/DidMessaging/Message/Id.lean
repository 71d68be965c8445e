import DidMessaging.Entropy
import DidMessaging.Message.Basic
import DidMessaging.Text.Radix

namespace DidMessaging

namespace Uuid

def marked (bytes : Bytes) : Bytes :=
  bytes.mapIdx fun i b =>
    if i = 6 then (b &&& 0x0F) ||| 0x40
    else if i = 8 then (b &&& 0x3F) ||| 0x80
    else b

def text (bytes : Bytes) : String :=
  let hex (first count : Nat) : String := Hex.encode ((bytes.drop first).take count)
  "-".intercalate [hex 0 4, hex 4 2, hex 6 2, hex 8 2, hex 10 6]

/-- The octets are drawn from the last to the first. -/
def draw : Draw String := do
  let bytes ← Entropy.bytes 16
  return text (marked bytes.reverse)

end Uuid

def Message.create (type : String) (body : Json) : Draw Message := do
  let id ← Uuid.draw
  return { id, type, body }

end DidMessaging
