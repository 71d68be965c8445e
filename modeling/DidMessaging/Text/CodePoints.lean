namespace DidMessaging

/-- Sets of characters, as ranges of code points. -/
abbrev CodePoints := List (Nat × Nat)

namespace CodePoints

def contains (ranges : CodePoints) (c : Char) : Bool :=
  ranges.any fun range => range.1 ≤ c.toNat && c.toNat ≤ range.2

/-- The ranges follow each other, with a gap in between. -/
def isAscending : CodePoints → Bool
  | [] => true
  | [range] => range.1 ≤ range.2
  | range :: next :: rest =>
    range.1 ≤ range.2 && range.2 + 1 < next.1 && isAscending (next :: rest)

end CodePoints

end DidMessaging
