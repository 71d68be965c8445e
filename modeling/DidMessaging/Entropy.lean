import DidMessaging.Error
import DidMessaging.Bytes

namespace DidMessaging

/-! Randomness is an endless stream of octets, of which each draw takes the next ones. -/

structure Entropy where
  octet : Nat → UInt8
  used : Nat

abbrev Draw := StateT Entropy Result

namespace Entropy

def ofStream (octet : Nat → UInt8) : Entropy := ⟨octet, 0⟩

def take (n : Nat) (e : Entropy) : Bytes × Entropy :=
  ((List.range n).map fun i => e.octet (e.used + i), { e with used := e.used + n })

def bytes (n : Nat) : Draw Bytes := fun e => .ok (e.take n)

@[simp] theorem length_take (n : Nat) (e : Entropy) : (e.take n).1.length = n := by
  simp [take]

end Entropy

end DidMessaging
