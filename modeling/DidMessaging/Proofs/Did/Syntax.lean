import DidMessaging.Proofs.Did.Url
import DidMessaging.Text.Split

namespace DidMessaging.Did

/-! Characters. -/

def MethodChar (c : Char) : Prop := 'a' ≤ c ∧ c ≤ 'z' ∨ '0' ≤ c ∧ c ≤ '9'

def IdChar (c : Char) : Prop :=
  'A' ≤ c ∧ c ≤ 'Z' ∨ 'a' ≤ c ∧ c ≤ 'z' ∨ '0' ≤ c ∧ c ≤ '9' ∨ c ∈ ['.', '_', '%', '-']

theorem isLower_iff {c : Char} : c.isLower = true ↔ 'a' ≤ c ∧ c ≤ 'z' :=
  Bool.and_eq_true_iff.trans (and_congr decide_eq_true_iff decide_eq_true_iff)

theorem isUpper_iff {c : Char} : c.isUpper = true ↔ 'A' ≤ c ∧ c ≤ 'Z' := decide_eq_true_iff

theorem isDigit_iff {c : Char} : c.isDigit = true ↔ '0' ≤ c ∧ c ≤ '9' :=
  Bool.and_eq_true_iff.trans (and_congr decide_eq_true_iff decide_eq_true_iff)

theorem isAlphanum_iff {c : Char} :
    c.isAlphanum = true ↔ (c.isUpper = true ∨ c.isLower = true) ∨ c.isDigit = true :=
  Bool.or_eq_true_iff.trans (or_congr_left Bool.or_eq_true_iff)

theorem isMethodChar_iff {c : Char} : isMethodChar c = true ↔ MethodChar c := by
  rw [isMethodChar, MethodChar, Bool.or_eq_true, isLower_iff, isDigit_iff]

theorem isIdChar_iff {c : Char} : isIdChar c = true ↔ IdChar c := by
  simp [isIdChar, IdChar, isAlphanum_iff, isUpper_iff, isLower_iff, isDigit_iff, or_assoc]

theorem IdChar.ne_colon {c : Char} (valid : IdChar c) : c ≠ ':' := by
  rintro rfl
  exact absurd (isIdChar_iff.mpr valid) (by decide)

theorem endsDid_eq_false {c : Char}
    (valid : isMethodChar c = true ∨ isIdChar c = true ∨ c = ':') : endsDid c = false := by
  cases ends : endsDid c with
  | false => rfl
  | true =>
      have mark : c = '#' ∨ c = '?' ∨ c = '/' := by simpa [endsDid, or_assoc] using ends
      rcases mark with rfl | rfl | rfl <;> revert valid <;> decide

/-! What a DID URL consists of. -/

/-- A colon ends each segment but not the last identifier. -/
def joined (segments : List (List Char)) (last : List Char) : List Char :=
  segments.flatMap (· ++ [':']) ++ last

@[ext] structure Form where
  method : List Char
  /-- The identifiers before the last one, each of which a colon ends. -/
  segments : List (List Char)
  identifier : List Char
  path : List Char
  query : List Char
  fragment : Option (List Char)

namespace Form

def did (f : Form) : List Char :=
  ['d', 'i', 'd', ':'] ++ f.method ++ ':' :: joined f.segments f.identifier

def parts (f : Form) : Parts where
  did := f.did
  path := f.path
  query := f.query
  fragment := (f.fragment.map ('#' :: ·)).getD []

def text (f : Form) : List Char := f.parts.toList

structure Valid (f : Form) : Prop where
  method_ne_nil : f.method ≠ []
  method : ∀ c ∈ f.method, MethodChar c
  segments : ∀ s ∈ f.segments, ∀ c ∈ s, IdChar c
  identifier_ne_nil : f.identifier ≠ []
  identifier : ∀ c ∈ f.identifier, IdChar c
  path : f.path = [] ∨ ∃ rest, f.path = '/' :: rest ∧ ∀ c ∈ rest, c ≠ '?' ∧ c ≠ '#'
  query : f.query = [] ∨ ∃ rest, f.query = '?' :: rest ∧ ∀ c ∈ rest, c ≠ '#'
  fragment : ∀ t ∈ f.fragment, t ≠ [] ∧ ∀ c ∈ t, c ≠ '\n'

end Form

/-! Parts are cut at the first mark of each kind. -/

theorem span_eq_iff {p : α → Bool} {cs front rest : List α} :
    cs.span p = (front, rest) ↔
      cs = front ++ rest ∧ (∀ c ∈ front, p c = true) ∧ ∀ c ∈ rest.head?, p c = false := by
  rw [List.span_eq_takeWhile_dropWhile, Prod.mk.injEq]
  constructor
  · rintro ⟨rfl, rfl⟩
    refine ⟨List.takeWhile_append_dropWhile.symm, fun c => List.mem_takeWhile_imp,
      fun c first => ?_⟩
    have ends := List.head?_dropWhile_not p cs
    rw [Option.mem_def.mp first] at ends
    exact ends
  · rintro ⟨rfl, inside, ends⟩
    rw [List.takeWhile_append_of_pos inside, List.dropWhile_append_of_pos inside]
    cases rest with
    | nil => simp
    | cons c rest => simp [ends c rfl]

namespace Parts

/-- Each part but the first is empty or begins with its mark, and holds no mark that ends it. -/
structure Marked (p : Parts) : Prop where
  did : ∀ c ∈ p.did, endsDid c = false
  path : p.path = [] ∨ ∃ rest, p.path = '/' :: rest ∧ ∀ c ∈ rest, c ≠ '?' ∧ c ≠ '#'
  query : p.query = [] ∨ ∃ rest, p.query = '?' :: rest ∧ ∀ c ∈ rest, c ≠ '#'
  fragment : p.fragment = [] ∨ ∃ rest, p.fragment = '#' :: rest

theorem ofList_eq_iff_spans {cs : List Char} {p : Parts} :
    ofList cs = p ↔ ∃ afterDid afterPath, cs.span (!endsDid ·) = (p.did, afterDid) ∧
      afterDid.span (fun c => c ≠ '?' && c ≠ '#') = (p.path, afterPath) ∧
      afterPath.span (· ≠ '#') = (p.query, p.fragment) := by
  constructor
  · rintro rfl
    exact ⟨_, _, rfl, rfl, rfl⟩
  · rintro ⟨afterDid, afterPath, did, path, query⟩
    simp only [ofList, did, path, query]

theorem marked_ofList (cs : List Char) : (ofList cs).Marked := by
  obtain ⟨afterDid, afterPath, did, path, query⟩ := ofList_eq_iff_spans.mp (Eq.refl (ofList cs))
  generalize ofList cs = p at did path query
  obtain ⟨-, inDid, endDid⟩ := span_eq_iff.mp did
  obtain ⟨rfl, inPath, endPath⟩ := span_eq_iff.mp path
  obtain ⟨rfl, inQuery, endQuery⟩ := span_eq_iff.mp query
  simp only [Bool.not_eq_true', Bool.and_eq_true, decide_eq_true_eq] at inDid inPath inQuery
  refine ⟨inDid, ?_, ?_, ?_⟩
  · cases whole : p.path with
    | nil => exact .inl rfl
    | cons c rest =>
        rw [whole] at inPath endDid
        have mark := endDid c rfl
        obtain ⟨first, others⟩ := List.forall_mem_cons.mp inPath
        exact .inr ⟨rest, by simpa [endsDid, first.1, first.2] using mark, others⟩
  · cases whole : p.query with
    | nil => exact .inl rfl
    | cons c rest =>
        rw [whole] at inQuery endPath
        have mark := endPath c rfl
        obtain ⟨first, others⟩ := List.forall_mem_cons.mp inQuery
        exact .inr ⟨rest, by simpa [first] using mark, others⟩
  · cases whole : p.fragment with
    | nil => exact .inl rfl
    | cons c rest =>
        rw [whole] at endQuery
        exact .inr ⟨rest, by simpa using endQuery c rfl⟩

namespace Marked

variable {p : Parts}

theorem head_fragment (marked : p.Marked) : ∀ c ∈ p.fragment.head?, c = '#' := by
  intro c first
  rcases marked.fragment with fragment | ⟨rest, fragment⟩
  · simp [fragment] at first
  · simpa [fragment, eq_comm] using first

theorem head_query (marked : p.Marked) :
    ∀ c ∈ (p.query ++ p.fragment).head?, c = '?' ∨ c = '#' := by
  intro c first
  rcases marked.query with query | ⟨rest, query, -⟩
  · exact .inr (marked.head_fragment c (by simpa [query] using first))
  · exact .inl (by simpa [query, eq_comm] using first)

theorem head_path (marked : p.Marked) :
    ∀ c ∈ (p.path ++ (p.query ++ p.fragment)).head?, c = '/' ∨ c = '?' ∨ c = '#' := by
  intro c first
  rcases marked.path with path | ⟨rest, path, -⟩
  · exact .inr (marked.head_query c (by simpa [path] using first))
  · exact .inl (by simpa [path, eq_comm] using first)

theorem in_path (marked : p.Marked) : ∀ c ∈ p.path, c ≠ '?' ∧ c ≠ '#' := by
  rcases marked.path with path | ⟨rest, path, inside⟩
  · simp [path]
  · rw [path]
    exact List.forall_mem_cons.mpr ⟨by decide, inside⟩

theorem in_query (marked : p.Marked) : ∀ c ∈ p.query, c ≠ '#' := by
  rcases marked.query with query | ⟨rest, query, inside⟩
  · simp [query]
  · rw [query]
    exact List.forall_mem_cons.mpr ⟨by decide, inside⟩

end Marked

theorem ofList_toList {p : Parts} (marked : p.Marked) : ofList p.toList = p := by
  refine ofList_eq_iff_spans.mpr ⟨p.path ++ (p.query ++ p.fragment), p.query ++ p.fragment,
    span_eq_iff.mpr ⟨by simp [toList], fun c member => ?_, fun c first => ?_⟩,
    span_eq_iff.mpr ⟨rfl, fun c member => ?_, fun c first => ?_⟩,
    span_eq_iff.mpr ⟨rfl, fun c member => ?_, fun c first => ?_⟩⟩
  · rw [marked.did c member, Bool.not_false]
  · rcases marked.head_path c first with rfl | rfl | rfl <;> rfl
  · simpa using marked.in_path c member
  · rcases marked.head_query c first with rfl | rfl <;> rfl
  · simpa using marked.in_query c member
  · obtain rfl := marked.head_fragment c first
    rfl

end Parts

/-! Identifiers between colons. -/

theorem joined_cons (s : List Char) (segments : List (List Char)) (last : List Char) :
    joined (s :: segments) last = s ++ ':' :: joined segments last := by
  simp [joined]

theorem exists_joined (cs : List Char) :
    ∃ segments last, cs = joined segments last ∧ (∀ s ∈ segments, ':' ∉ s) ∧ ':' ∉ last := by
  induction cs with
  | nil => exact ⟨[], [], rfl, List.forall_mem_nil _, List.not_mem_nil⟩
  | cons c cs ih =>
      obtain ⟨segments, last, rfl, inSegments, inLast⟩ := ih
      by_cases colon : c = ':'
      · exact ⟨[] :: segments, last, by rw [colon, joined_cons, List.nil_append],
          List.forall_mem_cons.mpr ⟨List.not_mem_nil, inSegments⟩, inLast⟩
      · have other : ':' ≠ c := Ne.symm colon
        cases segments with
        | nil => exact ⟨[], c :: last, rfl, inSegments, by simp [other, inLast]⟩
        | cons s segments =>
            obtain ⟨inFirst, inOthers⟩ := List.forall_mem_cons.mp inSegments
            exact ⟨(c :: s) :: segments, last, by rw [joined_cons, joined_cons, List.cons_append],
              List.forall_mem_cons.mpr ⟨by simp [other, inFirst], inOthers⟩, inLast⟩

theorem splitAt_joined {segments : List (List Char)} {last : List Char}
    (inSegments : ∀ s ∈ segments, ':' ∉ s) (inLast : ':' ∉ last) :
    splitAt ':' (joined segments last) = segments ++ [last] := by
  induction segments with
  | nil => exact splitAt_of_notMem inLast
  | cons s segments ih =>
      obtain ⟨inFirst, inOthers⟩ := List.forall_mem_cons.mp inSegments
      rw [joined_cons, splitAt_append inFirst, ih inOthers, List.cons_append]

theorem isIdentifier_iff {cs : List Char} :
    isIdentifier cs = true ↔ ∃ segments last, cs = joined segments last ∧
      (∀ s ∈ segments, ∀ c ∈ s, IdChar c) ∧ last ≠ [] ∧ ∀ c ∈ last, IdChar c := by
  unfold isIdentifier
  constructor
  · intro valid
    obtain ⟨all, ends⟩ := Bool.and_eq_true_iff.mp valid
    obtain ⟨segments, last, rfl, inSegments, inLast⟩ := exists_joined cs
    have each (c) (member : c ∈ joined segments last) (other : c ≠ ':') : IdChar c := by
      simpa [other, isIdChar_iff] using List.all_eq_true.mp all c member
    refine ⟨segments, last, rfl, fun s known c member => ?_, ?_, fun c member => ?_⟩
    · have within : c ∈ s ++ [':'] := List.mem_append_left _ member
      exact each c (List.mem_append_left _ (List.mem_flatMap.mpr ⟨s, known, within⟩))
        fun colon => inSegments s known (colon ▸ member)
    · rintro rfl
      rcases List.eq_nil_or_concat segments with rfl | ⟨before, s, rfl⟩
      · contradiction
      · simp [joined] at ends
    · exact each c (List.mem_append_right _ member) fun colon => inLast (colon ▸ member)
  · rintro ⟨segments, last, rfl, inSegments, some_, inLast⟩
    refine Bool.and_eq_true_iff.mpr ⟨List.all_eq_true.mpr fun c member => ?_, ?_⟩
    · rcases List.mem_append.mp member with before | within
      · obtain ⟨s, known, member⟩ := List.mem_flatMap.mp before
        rcases List.mem_append.mp member with inside | colon
        · simp [isIdChar_iff.mpr (inSegments s known c inside)]
        · simp [List.mem_singleton.mp colon]
      · simp [isIdChar_iff.mpr (inLast c within)]
    · rw [joined, List.getLast?_append_of_ne_nil _ some_, List.getLast?_eq_some_getLast some_]
      exact decide_eq_true (inLast _ (List.getLast_mem some_)).ne_colon

theorem endsDid_of_isDid {cs : List Char} (valid : isDid cs = true) :
    ∀ c ∈ cs, endsDid c = false := by
  obtain ⟨method, identifier, rfl, -, inMethod, isIdentifier⟩ := isDid_iff.mp valid
  have inIdentifier := List.all_eq_true.mp (Bool.and_eq_true_iff.mp isIdentifier).1
  have inScheme : ∀ c ∈ ['d', 'i', 'd', ':'], endsDid c = false := by simp [endsDid]
  intro c member
  rcases List.mem_append.mp member with before | after
  · rcases List.mem_append.mp before with scheme | inside
    · exact inScheme c scheme
    · exact endsDid_eq_false (.inl (inMethod c inside))
  · rcases List.mem_cons.mp after with rfl | inside
    · rfl
    · exact endsDid_eq_false (.inr (by simpa using inIdentifier c inside))

/-! Forms. -/

namespace Form.Valid

variable {f f' : Form}

theorem isDid (valid : f.Valid) : isDid f.did = true :=
  isDid_iff.mpr ⟨f.method, joined f.segments f.identifier, rfl, valid.method_ne_nil,
    fun c member => isMethodChar_iff.mpr (valid.method c member),
    isIdentifier_iff.mpr ⟨f.segments, f.identifier, rfl, valid.segments, valid.identifier_ne_nil,
      valid.identifier⟩⟩

theorem marked (valid : f.Valid) : f.parts.Marked where
  did := endsDid_of_isDid valid.isDid
  path := valid.path
  query := valid.query
  fragment := by
    cases given : f.fragment with
    | none => exact .inl (by simp [parts, given])
    | some t => exact .inr ⟨t, by simp [parts, given]⟩

theorem ofList_text (valid : f.Valid) : Parts.ofList f.text = f.parts :=
  Parts.ofList_toList valid.marked

theorem splitAt_did (valid : f.Valid) :
    splitAt ':' f.did = ['d', 'i', 'd'] :: f.method :: (f.segments ++ [f.identifier]) := by
  have scheme : ':' ∉ ['d', 'i', 'd'] := by decide
  have method : ':' ∉ f.method := fun member =>
    absurd (isMethodChar_iff.mpr (valid.method _ member)) (by decide)
  have segments : ∀ s ∈ f.segments, ':' ∉ s := fun s known member =>
    (valid.segments s known _ member).ne_colon rfl
  have identifier : ':' ∉ f.identifier := fun member => (valid.identifier _ member).ne_colon rfl
  have parted : f.did =
      ['d', 'i', 'd'] ++ ':' :: (f.method ++ ':' :: joined f.segments f.identifier) := by
    simp [did]
  rw [parted, splitAt_append scheme, splitAt_append method, splitAt_joined segments identifier]

/-- No text has two forms. -/
theorem unique (valid : f.Valid) (valid' : f'.Valid) (same : f'.text = f.text) : f' = f := by
  -- The first marks give the parts of the text, and the colons give those of its DID.
  have parts : f'.parts = f.parts := by rw [← valid'.ofList_text, same, valid.ofList_text]
  obtain ⟨did, path, query, fragment⟩ := Parts.mk.inj parts
  have identifiers : splitAt ':' f'.did = splitAt ':' f.did := congrArg _ did
  rw [valid'.splitAt_did, valid.splitAt_did] at identifiers
  obtain ⟨method, identifiers⟩ := List.cons.inj (List.cons.inj identifiers).2
  obtain ⟨segments, identifier⟩ := List.append_inj' identifiers rfl
  apply Form.ext method segments (List.cons.inj identifier).1 path query
  cases given : f.fragment <;> cases given' : f'.fragment <;> simp_all

/-! What is made of a value that has a form. -/

variable {value : String}

theorem parse?_eq_some (valid : f.Valid) (text : f.text = value.toList) :
    parse? value = some ⟨.ofList f.did, f.fragment.map .ofList⟩ := by
  have fragment : isFragment f.parts.fragment = true ∧ f.parts.fragment.tail? = f.fragment := by
    cases given : f.fragment with
    | none => simp [parts, given, isFragment]
    | some t =>
        obtain ⟨some_, line⟩ := valid.fragment t given
        simpa [parts, given, isFragment, some_] using line
  unfold parse?
  rw [← text, valid.ofList_text]
  have isDid : Did.isDid f.parts.did = true := valid.isDid
  simp only [isDid, fragment, Bool.and_self, if_true]
  rfl

theorem ofUrl_eq (valid : f.Valid) (text : f.text = value.toList) :
    ofUrl value = .ofList f.did :=
  ofUrl_of_parse? (valid.parse?_eq_some text)

theorem isUrl_iff (valid : f.Valid) (text : f.text = value.toList) :
    isUrl value = true ↔ f.fragment.isSome = true := by
  have inDid : '#' ∉ f.did := fun member => absurd (valid.marked.did _ member) (by decide)
  have inPath : '#' ∉ f.path := fun member => (valid.marked.in_path _ member).2 rfl
  have inQuery : '#' ∉ f.query := fun member => valid.marked.in_query _ member rfl
  rw [isUrl, ← text]
  cases given : f.fragment <;> simp [Form.text, Parts.toList, parts, given, inDid, inPath, inQuery]

theorem validate_iff (valid : f.Valid) (text : f.text = value.toList) (what : String) :
    validate value what = .ok () ↔ value = .ofList f.did := by
  constructor
  · intro plain
    have parsed := parse?_of_validate plain
    rw [valid.parse?_eq_some text] at parsed
    exact (Url.mk.inj (Option.some.inj parsed)).1.symm
  · intro whole
    have bare : value.toList = f.did := by rw [whole, String.toList_ofList]
    have inDid (c : Char) (ends : endsDid c = true) : c ∉ value.toList := by
      rw [bare]
      exact fun member => absurd (valid.marked.did c member) (by simp [ends])
    have fragment : f.fragment = none := by
      rw [← Option.not_isSome_iff_eq_none, ← valid.isUrl_iff text]
      simpa [isUrl] using inDid '#' rfl
    unfold validate
    rw [valid.parse?_eq_some text, fragment]
    simp [inDid '/' rfl, inDid '?' rfl]

theorem validateUrl_eq_ok (valid : f.Valid) (text : f.text = value.toList) (what : String) :
    validateUrl value what = .ok () := by
  rw [validateUrl, valid.parse?_eq_some text]

end Form.Valid

/-- Whatever is parsed has a form. -/
theorem exists_form (parsed : parse? value = some url) :
    ∃ f : Form, f.Valid ∧ f.text = value.toList := by
  unfold parse? at parsed
  dsimp only at parsed
  split at parsed
  · next accepted =>
      have marked := Parts.marked_ofList value.toList
      have whole := Parts.toList_ofList value.toList
      generalize Parts.ofList value.toList = p at accepted marked whole
      obtain ⟨isDid, isFragment⟩ := Bool.and_eq_true_iff.mp accepted
      obtain ⟨method, identifier, did, some_, inMethod, isIdentifier⟩ := isDid_iff.mp isDid
      obtain ⟨segments, last, rfl, inSegments, someLast, inLast⟩ :=
        isIdentifier_iff.mp isIdentifier
      let f : Form := ⟨method, segments, last, p.path, p.query, p.fragment.tail?⟩
      have fragment : (p.fragment.tail?.map ('#' :: ·)).getD [] = p.fragment := by
        rcases marked.fragment with given | ⟨rest, given⟩ <;> rw [given] <;> rfl
      have parts : f.parts = p := calc
        f.parts = ⟨f.did, p.path, p.query, (p.fragment.tail?.map ('#' :: ·)).getD []⟩ := rfl
        _ = ⟨p.did, p.path, p.query, p.fragment⟩ := by rw [fragment, did]; rfl
      refine ⟨f, ⟨some_, fun c member => isMethodChar_iff.mp (inMethod c member), inSegments,
        someLast, inLast, marked.path, marked.query, ?_⟩, by rw [Form.text, parts, whole]⟩
      intro t given
      rcases marked.fragment with empty | ⟨rest, marks⟩
      · simp [f, empty] at given
      · obtain rfl : rest = t := by simpa [f, marks] using given
        simpa [marks, Did.isFragment] using isFragment
  · contradiction

/-- A value is accepted just when it has a form, which is then the only one. What is found by the
first marks, without reading all of the value, is what stands in the form: its DID, whether it has
a fragment, and whether it is a DID and nothing else. Any other value is refused. -/
theorem parse?_form (value what : String) :
    (∀ url, parse? value = some url ↔ ∃ f : Form, f.Valid ∧ f.text = value.toList ∧
      url = ⟨.ofList f.did, f.fragment.map .ofList⟩) ∧
    (∀ f : Form, f.Valid → f.text = value.toList →
      (∀ f' : Form, f'.Valid → f'.text = value.toList → f' = f) ∧
      ofUrl value = .ofList f.did ∧
      (isUrl value = true ↔ f.fragment.isSome = true) ∧
      (validate value what = .ok () ↔ value = .ofList f.did) ∧
      validateUrl value what = .ok ()) ∧
    ((∀ f : Form, f.Valid → f.text ≠ value.toList) →
      parse? value = none ∧
      Result.ofCheck (validate value what) = .error (.illegal (.notDidOrDidUrl value)) ∧
      Result.ofCheck (validateUrl value what) =
        .error (.illegal (.notDidOrDidUrlIn what value))) := by
  refine ⟨fun url => ⟨fun parsed => ?_, ?_⟩, fun f valid text => ?_, fun none_ => ?_⟩
  · obtain ⟨f, valid, text⟩ := exists_form parsed
    rw [valid.parse?_eq_some text] at parsed
    exact ⟨f, valid, text, (Option.some.inj parsed).symm⟩
  · rintro ⟨f, valid, text, rfl⟩
    exact valid.parse?_eq_some text
  · exact ⟨fun f' valid' text' => valid.unique valid' (text'.trans text.symm),
      valid.ofUrl_eq text, valid.isUrl_iff text, valid.validate_iff text what,
      valid.validateUrl_eq_ok text what⟩
  · have refused : parse? value = none := by
      cases parsed : parse? value with
      | none => rfl
      | some url =>
          obtain ⟨f, valid, text⟩ := exists_form parsed
          exact absurd text (none_ f valid)
    exact ⟨refused, by rw [validate, refused]; rfl, by rw [validateUrl, refused]; rfl⟩

/-- Segments may be empty but for the last one, and a fragment may hold another mark of its own. -/
example : parse? "did:example::1/a?b#c#d" = some ⟨"did:example::1", some "c#d"⟩ := by
  decide +kernel

example : parse? "did:example:1:" = none := by decide +kernel

end DidMessaging.Did
