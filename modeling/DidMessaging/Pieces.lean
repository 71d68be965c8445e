namespace DidMessaging

def pieces (size : Nat) : (count : Nat) → List α → List (List α)
  | 0, _ => []
  | count + 1, xs => xs.take size :: pieces size count (xs.drop size)

/-- All elements in pieces of `size`; only the last piece may be shorter. -/
def chunks (size : Nat) (xs : List α) : List (List α) :=
  pieces size ((xs.length + size - 1) / size) xs

/-- The pieces of exactly `size` elements, and what is left after them. -/
def wholeChunks (size : Nat) (xs : List α) : List (List α) × List α :=
  (pieces size (xs.length / size) xs, xs.drop (size * (xs.length / size)))

@[simp] theorem pieces_zero (size : Nat) (xs : List α) : pieces size 0 xs = [] := rfl

@[simp] theorem pieces_succ (size count : Nat) (xs : List α) :
    pieces size (count + 1) xs = xs.take size :: pieces size count (xs.drop size) := rfl

@[simp] theorem length_pieces (size count : Nat) (xs : List α) :
    (pieces size count xs).length = count := by
  induction count generalizing xs with
  | zero => rfl
  | succ count ih => simp [ih]

theorem flatten_pieces_append_drop (size count : Nat) (xs : List α) :
    (pieces size count xs).flatten ++ xs.drop (size * count) = xs := by
  induction count generalizing xs with
  | zero => simp
  | succ count ih =>
    have h := ih (xs.drop size)
    rw [List.drop_drop] at h
    rw [pieces_succ, List.flatten_cons, List.append_assoc, Nat.mul_succ, Nat.add_comm, h,
      List.take_append_drop]

theorem flatten_pieces {size count : Nat} {xs : List α} (h : xs.length ≤ size * count) :
    (pieces size count xs).flatten = xs := by
  have := flatten_pieces_append_drop size count xs
  rwa [List.drop_eq_nil_of_le h, List.append_nil] at this

theorem flatten_chunks {size : Nat} (h : 0 < size) (xs : List α) :
    (chunks size xs).flatten = xs := by
  apply flatten_pieces
  have := Nat.div_add_mod (xs.length + size - 1) size
  have := Nat.mod_lt (xs.length + size - 1) h
  omega

theorem flatten_wholeChunks (size : Nat) (xs : List α) :
    (wholeChunks size xs).1.flatten ++ (wholeChunks size xs).2 = xs :=
  flatten_pieces_append_drop size _ xs

end DidMessaging
