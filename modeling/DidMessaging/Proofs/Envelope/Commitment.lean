import DidMessaging.Envelope.Jwe
import DidMessaging.Proofs.Did.Url
import DidMessaging.Proofs.Text.Order

namespace DidMessaging.Jwe

/-- Another DID begins somewhere after a dot. -/
def GoesOn (fragment : List Char) : Prop := ∃ head, Did.Head head ∧ '.' :: head <:+: fragment

theorem not_goesOn {fragment : List Char} (undotted : '.' ∉ fragment) : ¬ GoesOn fragment := by
  rintro ⟨head, isHead, within⟩
  exact undotted (within.subset List.mem_cons_self)

/-- A DID URL with a fragment that does not go on with another DID. -/
def Separable (kid : String) : Prop :=
  ∃ did fragment, Did.parse? kid = some ⟨did, some fragment⟩ ∧ ¬ GoesOn fragment.toList

/-- The same of the characters of a kid. -/
inductive Part : List Char → Prop
  | mk (unmarked : '#' ∉ before) (isHead : Did.Head head) (begins : head <+: before)
      (ends : ¬ GoesOn fragment) : Part (before ++ '#' :: fragment)

theorem Separable.part {kid : String} (separable : Separable kid) : Part kid.toList := by
  obtain ⟨did, fragment, parsed, ends⟩ := separable
  obtain ⟨before, split, unmarked, head, isHead, begins⟩ := Did.toList_of_parse? parsed
  rw [split]
  exact .mk unmarked isHead begins ends

theorem Part.ne_nil {part : List Char} (isPart : Part part) : part ≠ [] := by
  cases isPart with
  | mk unmarked isHead begins ends => simp

/-! The parts after the first one, each behind its dot. -/

variable {parts parts' : List (List Char)}

def following : List (List Char) → List Char
  | [] => []
  | part :: parts => '.' :: (part ++ following parts)

theorem intercalate_cons (part : List Char) (parts : List (List Char)) :
    ['.'].intercalate (part :: parts) = part ++ following parts := by
  induction parts generalizing part with
  | nil => simp [following]
  | cons next parts ih => simp [List.intercalate_cons_cons, ih, following]

theorem head_following {c : Char} {cs : List Char} (begins : c :: cs <+: following parts) :
    c = '.' := by
  cases parts with
  | nil => simp [following] at begins
  | cons part parts => exact (List.cons_prefix_cons.mp begins).1

theorem exists_head_following (each : ∀ part ∈ parts, Part part) (some_ : parts ≠ []) :
    ∃ head, Did.Head head ∧ '.' :: head <+: following parts := by
  cases parts with
  | nil => contradiction
  | cons part parts =>
      cases each part List.mem_cons_self with
      | mk unmarked isHead begins ends =>
          refine ⟨_, isHead, List.cons_prefix_cons.mpr ⟨rfl, ?_⟩⟩
          rw [List.append_assoc]
          exact begins.trans (List.prefix_append _ _)

/-- A fragment goes up to the dot of the next part, and not on to a later one: what lies between the
two dots would begin as a DID does. -/
theorem eq_nil_of_following {fragment extra : List Char} (each : ∀ part ∈ parts, Part part)
    (ends : ¬ GoesOn (fragment ++ extra))
    (same : following parts = extra ++ following parts') : extra = [] := by
  cases parts with
  | nil => exact (List.append_eq_nil_iff.mp same.symm).1
  | cons part parts =>
      obtain ⟨head, isHead, begins⟩ := exists_head_following each (List.cons_ne_nil _ _)
      rw [same] at begins
      rcases List.prefix_or_prefix_of_prefix begins (List.prefix_append _ _) with whole | cut
      · exact absurd ⟨head, isHead, whole.isInfix.trans (List.suffix_append _ _).isInfix⟩ ends
      · obtain ⟨others, split⟩ := cut
        rw [← split, List.prefix_append_right_inj] at begins
        cases others with
        | nil =>
            rw [List.append_nil] at split
            exact absurd ⟨head, isHead, split ▸ (List.suffix_append _ _).isInfix⟩ ends
        | cons c cs =>
            obtain rfl := head_following begins
            -- There is no dot in what a DID begins with.
            cases extra with
            | nil => rfl
            | cons d ds =>
                have member : '.' ∈ head := by
                  rw [← (List.cons.inj split).2]
                  simp
                exact absurd member isHead.dot_notMem

theorem eq_of_first_mark {mark : Char} {cs ds after after' : List Char} (absent : mark ∉ cs)
    (absent' : mark ∉ ds) (same : cs ++ mark :: after = ds ++ mark :: after') :
    cs = ds ∧ after = after' := by
  induction cs generalizing ds with
  | nil =>
      cases ds with
      | nil => exact ⟨rfl, (List.cons.inj same).2⟩
      | cons d ds => simp [(List.cons.inj same).1] at absent'
  | cons c cs ih =>
      cases ds with
      | nil => simp [(List.cons.inj same).1] at absent
      | cons d ds =>
          obtain ⟨rfl, rest⟩ := List.cons.inj same
          obtain ⟨rfl, tails⟩ := ih (fun later => absent (List.mem_cons_of_mem _ later))
            (fun later => absent' (List.mem_cons_of_mem _ later)) rest
          exact ⟨rfl, tails⟩

theorem following_injective (each : ∀ part ∈ parts, Part part)
    (each' : ∀ part ∈ parts', Part part) (same : following parts = following parts') :
    parts = parts' := by
  induction parts generalizing parts' with
  | nil =>
      cases parts' with
      | nil => rfl
      | cons part' parts' => contradiction
  | cons part parts ih =>
      cases parts' with
      | nil => contradiction
      | cons part' parts' =>
          obtain ⟨first, rest⟩ := List.forall_mem_cons.mp each
          obtain ⟨first', rest'⟩ := List.forall_mem_cons.mp each'
          have joined := (List.cons.inj same).2
          cases first with
          | @mk before head fragment unmarked isHead begins ends =>
              cases first' with
              | @mk before' head' fragment' unmarked' isHead' begins' ends' =>
                  rw [List.append_assoc, List.append_assoc] at joined
                  obtain ⟨rfl, fragments⟩ := eq_of_first_mark unmarked unmarked' joined
                  rcases List.append_eq_append_iff.mp fragments with
                    ⟨extra, longer, after⟩ | ⟨extra, longer, after⟩
                  · obtain rfl := eq_nil_of_following rest (longer ▸ ends') after
                    rw [longer, List.append_nil, ih rest rest' after]
                  · obtain rfl := eq_nil_of_following rest' (longer ▸ ends) after
                    rw [longer, List.append_nil, ih rest rest' after.symm]

theorem intercalate_injective (each : ∀ part ∈ parts, Part part)
    (each' : ∀ part ∈ parts', Part part)
    (same : ['.'].intercalate parts = ['.'].intercalate parts') : parts = parts' := by
  cases parts with
  | nil =>
      cases parts' with
      | nil => rfl
      | cons part' parts' =>
          rw [intercalate_cons] at same
          have empty := (List.append_eq_nil_iff.mp same.symm).1
          exact absurd empty (each' part' List.mem_cons_self).ne_nil
  | cons part parts =>
      cases parts' with
      | nil =>
          rw [intercalate_cons] at same
          have empty := (List.append_eq_nil_iff.mp same).1
          exact absurd empty (each part List.mem_cons_self).ne_nil
      | cons part' parts' =>
          rw [intercalate_cons, intercalate_cons] at same
          exact following_injective each each' (congrArg (List.cons '.') same)

theorem sortTexts_eq_of_recipientsText {kids kids' : List String}
    (separable : ∀ kid ∈ kids ++ kids', Separable kid)
    (same : recipientsText kids = recipientsText kids') : sortTexts kids = sortTexts kids' := by
  have joined := congrArg String.toList same
  simp only [recipientsText, String.toList_intercalate] at joined
  have parts (listed : List String) (within : ∀ kid ∈ listed, kid ∈ kids ++ kids') :
      ∀ part ∈ (sortTexts listed).map String.toList, Part part := by
    intro part member
    obtain ⟨kid, sorted, rfl⟩ := List.mem_map.mp member
    exact (separable kid (within kid ((sortTexts_perm listed).mem_iff.mp sorted))).part
  apply List.map_injective_iff.mpr (fun _ _ => String.toList_inj.mp)
  apply intercalate_injective
  · exact parts kids fun kid => List.mem_append_left _
  · exact parts kids' fun kid => List.mem_append_right _
  · exact joined

theorem recipientsText_eq_of_perm {kids kids' : List String} (perm : kids.Perm kids') :
    recipientsText kids = recipientsText kids' := by
  rw [recipientsText, recipientsText, sortTexts_eq_of_perm perm]

/-- Kids in another order are hashed from the same text. Conversely, separable kids that are hashed
from the same text are the same kids in some order. -/
theorem recipientsText_commits (kids kids' : List String) :
    (kids.Perm kids' → recipientsText kids = recipientsText kids') ∧
      ((∀ kid ∈ kids ++ kids', Separable kid) → recipientsText kids = recipientsText kids' →
        kids.Perm kids') := by
  constructor
  · exact recipientsText_eq_of_perm
  · intro separable same
    have sorted := sortTexts_eq_of_recipientsText separable same
    exact (sortTexts_perm kids).symm.trans (sorted ▸ sortTexts_perm kids')

theorem recipientsText_commits_two :
    (∀ kid ∈ ["did:example:bob#2", "did:example:bob#1", "did:example:bob#1", "did:example:bob#2"],
      Separable kid) ∧
    recipientsText ["did:example:bob#2", "did:example:bob#1"] =
      recipientsText ["did:example:bob#1", "did:example:bob#2"] ∧
    ["did:example:bob#2", "did:example:bob#1"].Perm
      ["did:example:bob#1", "did:example:bob#2"] := by
  have first : Separable "did:example:bob#1" :=
    ⟨"did:example:bob", "1", by decide +kernel, not_goesOn (by decide)⟩
  have second : Separable "did:example:bob#2" :=
    ⟨"did:example:bob", "2", by decide +kernel, not_goesOn (by decide)⟩
  have separable : ∀ kid ∈ ["did:example:bob#2", "did:example:bob#1", "did:example:bob#1",
      "did:example:bob#2"], Separable kid := by
    simp [first, second]
  have same : recipientsText ["did:example:bob#2", "did:example:bob#1"] =
      recipientsText ["did:example:bob#1", "did:example:bob#2"] := by
    decide +kernel
  exact ⟨separable, same, (recipientsText_commits _ _).2 separable same⟩

/-- A kid in whose fragment another kid stands is hashed like the two. -/
theorem recipientsText_not_injective :
    (∀ kid ∈ ["did:example:alice#key", "did:example:bob#key",
        "did:example:alice#key.did:example:bob#key"],
      ∃ did fragment, Did.parse? kid = some ⟨did, some fragment⟩) ∧
    recipientsText ["did:example:alice#key", "did:example:bob#key"] =
      recipientsText ["did:example:alice#key.did:example:bob#key"] ∧
    ¬ ["did:example:alice#key", "did:example:bob#key"].Perm
      ["did:example:alice#key.did:example:bob#key"] := by
  refine ⟨?_, by decide +kernel, ?_⟩
  · simp only [List.forall_mem_cons, List.not_mem_nil, false_imp_iff, implies_true, and_true]
    refine ⟨⟨"did:example:alice", "key", ?_⟩, ⟨"did:example:bob", "key", ?_⟩,
      ⟨"did:example:alice", "key.did:example:bob#key", ?_⟩⟩
    · decide +kernel
    · decide +kernel
    · decide +kernel
  · intro perm
    have lengths := perm.length_eq
    contradiction

end DidMessaging.Jwe
