import DidMessaging.Pieces
import Mathlib.Data.List.Basic

namespace DidMessaging

theorem pieces_flatten {ps : List (List α)} (sized : ∀ p ∈ ps, p.length = size) (rest : List α) :
    pieces size ps.length (ps.flatten ++ rest) = ps := by
  induction ps with
  | nil => rfl
  | cons p ps ih =>
      have first := sized p List.mem_cons_self
      rw [List.length_cons, pieces_succ, List.flatten_cons, List.append_assoc,
        List.take_left' first, List.drop_left' first,
        ih fun q member => sized q (List.mem_cons_of_mem _ member)]

theorem pieces_flatMap {f : α → List β} (sized : ∀ a, (f a).length = size) (as : List α)
    (rest : List β) : pieces size as.length (as.flatMap f ++ rest) = as.map f := by
  have each : ∀ p ∈ as.map f, p.length = size := by
    intro p member
    obtain ⟨a, -, rfl⟩ := List.mem_map.mp member
    exact sized a
  have whole := pieces_flatten each rest
  rwa [List.length_map, ← List.flatMap_def] at whole

theorem length_of_mem_pieces {xs piece : List α} (enough : size * count ≤ xs.length)
    (member : piece ∈ pieces size count xs) : piece.length = size := by
  induction count generalizing xs with
  | zero => contradiction
  | succ count ih =>
      rw [Nat.mul_succ] at enough
      rcases List.mem_cons.mp member with rfl | later
      · rw [List.length_take]
        omega
      · exact ih (by rw [List.length_drop]; omega) later

theorem length_of_mem_wholeChunks {xs piece : List α} (member : piece ∈ (wholeChunks size xs).1) :
    piece.length = size :=
  length_of_mem_pieces (Nat.mul_div_le xs.length size) member

theorem length_chunks_of_mul (positive : 0 < size) (count : Nat) :
    (size * count + size - 1) / size = count := by
  rw [Nat.add_sub_assoc positive, Nat.mul_add_div positive, Nat.div_eq_of_lt (by omega),
    Nat.add_zero]

theorem length_of_mem_chunks {xs piece : List α} (positive : 0 < size)
    (whole : xs.length % size = 0) (member : piece ∈ chunks size xs) : piece.length = size := by
  obtain ⟨n, same⟩ := Nat.dvd_of_mod_eq_zero whole
  rw [chunks, same, length_chunks_of_mul positive] at member
  exact length_of_mem_pieces (Nat.le_of_eq same.symm) member

theorem length_flatten_of_sized {ps : List (List α)} (sized : ∀ p ∈ ps, p.length = size) :
    ps.flatten.length = size * ps.length := by
  induction ps with
  | nil => rfl
  | cons p ps ih =>
      rw [List.flatten_cons, List.length_append, sized p List.mem_cons_self,
        ih fun q member => sized q (List.mem_cons_of_mem _ member), List.length_cons, Nat.mul_succ,
        Nat.add_comm]

theorem length_flatMap_of_sized {f : α → List β} (sized : ∀ a, (f a).length = size)
    (as : List α) : (as.flatMap f).length = size * as.length := by
  have each : ∀ p ∈ as.map f, p.length = size := by
    intro p member
    obtain ⟨a, -, rfl⟩ := List.mem_map.mp member
    exact sized a
  rw [List.flatMap_def, length_flatten_of_sized each, List.length_map]

theorem chunks_flatten {ps : List (List α)} (positive : 0 < size)
    (sized : ∀ p ∈ ps, p.length = size) : chunks size ps.flatten = ps := by
  have whole := pieces_flatten sized []
  rwa [List.append_nil, ← length_chunks_of_mul positive ps.length, ← length_flatten_of_sized sized]
    at whole

end DidMessaging
