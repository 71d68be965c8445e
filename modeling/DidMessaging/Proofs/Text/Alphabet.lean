import DidMessaging.Proofs.Result
import Mathlib.Data.List.Nodup

namespace DidMessaging.Alphabet

variable {alphabet : List Char}

theorem idxOf?_eq_some_iff (nodup : alphabet.Nodup) {c : Char} {n : Nat} :
    alphabet.idxOf? c = some n ↔ n < alphabet.length ∧ alphabet.getD n '\x00' = c := by
  have getD (inside : n < alphabet.length) : alphabet.getD n '\x00' = alphabet[n] := by
    rw [List.getD_eq_getElem?_getD, List.getElem?_eq_getElem inside, Option.getD_some]
  rw [List.idxOf?_eq_some_iff]
  constructor
  · rintro ⟨inside, same, -⟩
    exact ⟨inside, by rwa [getD inside]⟩
  · rintro ⟨inside, same⟩
    rw [getD inside] at same
    refine ⟨inside, same, fun j before again => ?_⟩
    exact absurd ((nodup.getElem_inj_iff).mp (again.trans same.symm)) (by omega)

theorem mapM_idxOf?_eq_some_iff (nodup : alphabet.Nodup) {cs : List Char} {ns : List Nat} :
    cs.mapM (alphabet.idxOf? ·) = some ns ↔
      cs = ns.map (alphabet.getD · '\x00') ∧ ∀ n ∈ ns, n < alphabet.length := by
  simp only [Optional.mapM_eq_some_iff, idxOf?_eq_some_iff nodup]
  constructor
  · intro each
    induction each with
    | nil => simp
    | cons head rest ih =>
        obtain ⟨inside, digit⟩ := head
        obtain ⟨digits, small⟩ := ih
        exact ⟨by rw [List.map_cons, digit, ← digits], List.forall_mem_cons.mpr ⟨inside, small⟩⟩
  · rintro ⟨rfl, small⟩
    rw [List.forall₂_map_left_iff, List.forall₂_same]
    exact fun n member => ⟨small n member, rfl⟩

end DidMessaging.Alphabet
