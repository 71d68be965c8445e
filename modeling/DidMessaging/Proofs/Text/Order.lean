import DidMessaging.Text.Order

namespace DidMessaging

theorem mem_insertText {s t : String} {ts : List String} :
    t ∈ insertText s ts ↔ t = s ∨ t ∈ ts := by
  rw [(insertText_perm s ts).mem_iff, List.mem_cons]

theorem insertText_pairwise (s : String) {ts : List String} (sorted : ts.Pairwise (· ≤ ·)) :
    (insertText s ts).Pairwise (· ≤ ·) := by
  induction ts with
  | nil => exact List.pairwise_singleton _ _
  | cons t ts ih =>
      obtain ⟨least, rest⟩ := List.pairwise_cons.mp sorted
      rw [insertText]
      split
      · next less =>
          apply List.Pairwise.cons
          · intro u member
            cases mem_insertText.mp member with
            | inl same => exact same ▸ String.not_lt.mp (String.lt_asymm less)
            | inr later => exact least u later
          · exact ih rest
      · next notLess =>
          have first : s ≤ t := String.not_lt.mp notLess
          apply List.Pairwise.cons
          · intro u member
            cases List.mem_cons.mp member with
            | inl same => exact same ▸ first
            | inr later => exact String.le_trans first (least u later)
          · exact sorted

theorem sortTexts_pairwise (ss : List String) : (sortTexts ss).Pairwise (· ≤ ·) := by
  induction ss with
  | nil => exact List.Pairwise.nil
  | cons s ss ih => exact insertText_pairwise s ih

theorem sortTexts_eq_of_perm {ss ts : List String} (perm : ss.Perm ts) :
    sortTexts ss = sortTexts ts := by
  have sorted : (sortTexts ss).Perm (sortTexts ts) :=
    (sortTexts_perm ss).trans (perm.trans (sortTexts_perm ts).symm)
  apply sorted.eq_of_pairwise
  · intro s t _ _ below above
    exact String.le_antisymm below above
  · exact sortTexts_pairwise ss
  · exact sortTexts_pairwise ts

end DidMessaging
