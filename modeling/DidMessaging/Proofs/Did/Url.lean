import DidMessaging.Did.Url
import DidMessaging.Message.Rotation
import DidMessaging.Proofs.Result
import Mathlib.Data.List.TakeDrop
import Mathlib.Data.List.TakeWhile

namespace DidMessaging

open Result

namespace Did

/-- Only a path, a query or a fragment can follow the DID of a value. -/
theorem did_ofList {cs : List Char} (noPath : '/' ∉ cs) (noQuery : '?' ∉ cs)
    (noFragment : (Parts.ofList cs).fragment = []) : (Parts.ofList cs).did = cs := by
  have whole : cs.takeWhile (!endsDid ·) ++ cs.dropWhile (!endsDid ·) = cs :=
    List.takeWhile_append_dropWhile
  simp only [Parts.ofList, List.span_eq_takeWhile_dropWhile] at noFragment ⊢
  cases rest : cs.dropWhile (!endsDid ·) with
  | nil =>
      rw [rest, List.append_nil] at whole
      exact whole
  | cons c after =>
      have ends : endsDid c = true := by
        have head := List.head_dropWhile_not (!endsDid ·) (l := cs) (by simp [rest])
        simpa [rest] using head
      have member : c ∈ cs := by
        rw [← whole, rest]
        simp
      have hash : c = '#' := by
        have notPath : c ≠ '/' := fun same => noPath (same ▸ member)
        have notQuery : c ≠ '?' := fun same => noQuery (same ▸ member)
        simpa [endsDid, notPath, notQuery] using ends
      subst hash
      simp [rest] at noFragment

theorem parse?_of_validate (valid : validate value what = .ok ()) :
    parse? value = some ⟨value, none⟩ := by
  unfold validate at valid
  cases parsed : parse? value with
  | none => simp [parsed] at valid
  | some url =>
      simp only [parsed] at valid
      split at valid
      · next plain =>
          obtain ⟨⟨noFragment, noPath⟩, noQuery⟩ : (url.fragment = none ∧ '/' ∉ value.toList) ∧
              '?' ∉ value.toList := by simpa using plain
          simp only [parse?] at parsed
          split at parsed
          · obtain rfl := Option.some.inj parsed
            have empty : (Parts.ofList value.toList).fragment = [] := by
              cases fragment : (Parts.ofList value.toList).fragment with
              | nil => rfl
              | cons c cs => simp [fragment] at noFragment
            rw [did_ofList noPath noQuery empty, String.ofList_toList, empty]
            rfl
          · contradiction
      · contradiction

namespace Parts

theorem toList_ofList (cs : List Char) : (ofList cs).toList = cs := by
  simp only [ofList, toList, List.span_eq_takeWhile_dropWhile, List.append_assoc,
    List.takeWhile_append_dropWhile]

/-- The fragment begins at the first mark of one. -/
theorem hash_notMem_ofList (cs : List Char) :
    '#' ∉ (ofList cs).did ++ (ofList cs).path ++ (ofList cs).query := by
  simp only [ofList, List.span_eq_takeWhile_dropWhile, List.mem_append, not_or]
  refine ⟨⟨?_, ?_⟩, ?_⟩
  · intro member
    have kept := List.mem_takeWhile_imp member
    contradiction
  · intro member
    have kept := List.mem_takeWhile_imp member
    contradiction
  · intro member
    have kept := List.mem_takeWhile_imp member
    contradiction

theorem fragment_ofList {cs fragment : List Char}
    (found : (ofList cs).fragment.tail? = some fragment) :
    (ofList cs).fragment = '#' :: fragment := by
  obtain ⟨c, marked⟩ : ∃ c, (ofList cs).fragment = c :: fragment := by
    cases whole : (ofList cs).fragment with
    | nil => simp [whole] at found
    | cons c rest =>
        rw [whole] at found
        exact ⟨c, congrArg _ (Option.some.inj found)⟩
  rw [marked]
  simp only [ofList, List.span_eq_takeWhile_dropWhile] at marked
  have ends := List.head?_dropWhile_not (fun c => decide (c ≠ '#'))
    ((cs.dropWhile (!endsDid ·)).dropWhile fun c => c ≠ '?' && c ≠ '#')
  rw [marked] at ends
  simpa using ends

end Parts

/-- What a DID begins with: all that comes before its identifier. -/
inductive Head : List Char → Prop
  | mk (some_ : method ≠ []) (valid : ∀ c ∈ method, isMethodChar c = true) :
      Head (['d', 'i', 'd', ':'] ++ method ++ [':'])

theorem Head.dot_notMem {head : List Char} (isHead : Head head) : '.' ∉ head := by
  cases isHead with
  | mk some_ valid =>
      intro member
      simp only [List.mem_append, List.mem_cons, List.not_mem_nil, or_false] at member
      rcases member with (scheme | inMethod) | colon
      · contradiction
      · exact absurd (valid '.' inMethod) (by decide)
      · contradiction

/-- The method of a DID goes up to the first colon after the scheme. -/
theorem isDid_iff {cs : List Char} :
    isDid cs = true ↔ ∃ method identifier,
      cs = ['d', 'i', 'd', ':'] ++ method ++ ':' :: identifier ∧
      method ≠ [] ∧ (∀ c ∈ method, isMethodChar c = true) ∧ isIdentifier identifier = true := by
  constructor
  · intro isDid
    unfold Did.isDid at isDid
    split at isDid
    · next rest =>
        simp only [List.span_eq_takeWhile_dropWhile, Bool.and_eq_true, Bool.not_eq_true',
          List.all_eq_true] at isDid
        obtain ⟨⟨some_, valid⟩, identifier⟩ := isDid
        -- Without a colon after the method there is nothing left for the identifier.
        cases after : rest.dropWhile (· ≠ ':') with
        | nil =>
            rw [after] at identifier
            contradiction
        | cons c tail =>
            have colon : c = ':' := by
              have ends := List.head?_dropWhile_not (fun c => decide (c ≠ ':')) rest
              rw [after] at ends
              simpa using ends
            have whole :=
              List.takeWhile_append_dropWhile (p := fun c => decide (c ≠ ':')) (l := rest)
            rw [after, colon] at whole
            rw [after] at identifier
            refine ⟨_, tail, ?_, by simpa using some_, valid, identifier⟩
            rw [List.append_assoc, whole]
            rfl
    · contradiction
  · rintro ⟨method, identifier, rfl, some_, valid, isIdentifier⟩
    have inside : ∀ c ∈ method, decide (c ≠ ':') = true := fun c member =>
      decide_eq_true fun colon => absurd (valid c member) (by rw [colon]; decide)
    simp only [isDid, List.cons_append, List.nil_append, List.span_eq_takeWhile_dropWhile,
      List.takeWhile_append_of_pos inside, List.dropWhile_append_of_pos inside]
    simpa [some_, isIdentifier] using valid

theorem exists_head {cs : List Char} (isDid : isDid cs = true) :
    ∃ head, Head head ∧ head <+: cs := by
  obtain ⟨method, identifier, rfl, some_, valid, -⟩ := isDid_iff.mp isDid
  exact ⟨_, .mk some_ valid, identifier, by simp⟩

/-- A DID URL with a fragment begins as a DID does, and its fragment at the first mark of one. -/
theorem toList_of_parse? (parsed : parse? value = some ⟨did, some fragment⟩) :
    ∃ before, value.toList = before ++ '#' :: fragment.toList ∧ '#' ∉ before ∧
      ∃ head, Head head ∧ head <+: before := by
  simp only [parse?] at parsed
  split at parsed
  · next valid =>
      obtain ⟨-, found⟩ := Url.mk.inj (Option.some.inj parsed)
      obtain ⟨cs, tail, rfl⟩ := Option.map_eq_some_iff.mp found
      obtain ⟨head, isHead, begins⟩ := exists_head (Bool.and_eq_true_iff.mp valid).1
      refine ⟨(Parts.ofList value.toList).did ++ (Parts.ofList value.toList).path ++
        (Parts.ofList value.toList).query, ?_, Parts.hash_notMem_ofList _, head, isHead, ?_⟩
      · rw [String.toList_ofList, ← Parts.fragment_ofList tail]
        exact (Parts.toList_ofList value.toList).symm
      · rw [List.append_assoc]
        exact begins.trans (List.prefix_append _ _)
  · contradiction

theorem ofUrl_of_parse? (parsed : parse? value = some url) : ofUrl value = url.did := by
  simp only [parse?] at parsed
  split at parsed
  · obtain rfl := Option.some.inj parsed
    simp only [Parts.ofList, List.span_eq_takeWhile_dropWhile, ofUrl]
  · contradiction

end Did

theorem Rotation.validate_sound {r : Rotation} (valid : r.validate = .ok ()) :
    Did.parse? r.iss = some ⟨r.iss, none⟩ ∧ Did.parse? r.sub = some ⟨r.sub, none⟩ ∧
      r.iss ≠ r.sub := by
  unfold validate at valid
  obtain ⟨issuer, valid⟩ := check_bind_eq_ok_iff.mp valid
  obtain ⟨subject, valid⟩ := check_bind_eq_ok_iff.mp valid
  refine ⟨Did.parse?_of_validate issuer, Did.parse?_of_validate subject, fun same => ?_⟩
  simp [same] at valid

end DidMessaging
