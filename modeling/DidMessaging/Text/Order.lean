namespace DidMessaging

def insertText (s : String) : List String → List String
  | [] => [s]
  | t :: ts => if t < s then t :: insertText s ts else s :: t :: ts

def sortTexts (ss : List String) : List String :=
  ss.foldr insertText []

theorem insertText_perm (s : String) (ts : List String) : (insertText s ts).Perm (s :: ts) := by
  induction ts with
  | nil => exact .refl _
  | cons t ts ih =>
    unfold insertText
    split
    · exact (ih.cons t).trans (.swap s t ts)
    · exact .refl _

theorem sortTexts_perm (ss : List String) : (sortTexts ss).Perm ss := by
  induction ss with
  | nil => exact .refl _
  | cons s ss ih => exact (insertText_perm s _).trans (ih.cons s)

end DidMessaging
