import DidMessaging.Proofs.Agent.Unpacking
import DidMessaging.Proofs.Cipher.Size
import DidMessaging.Proofs.Envelope.Opening
import DidMessaging.Proofs.Message.Weight

namespace DidMessaging

open Result

/-! The text that unpacking goes on with may be longer than the one before, since a carried message
is written anew; what the strings in the text weigh becomes less with every envelope. -/

/-- What the document in a text weighs. -/
def burden (text : String) : Nat :=
  ((Json.Tree.read? text).map (·.weight)).getD 0

theorem burden_le (text : String) : burden text ≤ (Utf8.encode text).length := by
  unfold burden
  cases read : Json.Tree.read? text with
  | none => exact Nat.zero_le _
  | some t => exact Json.Tree.weight_of_read? read

theorem burden_text_le (j : Json) : burden j.text ≤ j.weight := by
  unfold burden
  cases read : Json.Tree.read? j.text with
  | none => exact Nat.zero_le _
  | some t => exact Json.Tree.weight_of_read?_text read

theorem weight_le_burden (read : Json.read? text = some value) : value.weight ≤ burden text := by
  obtain ⟨t, treeRead, value⟩ := Option.bind_eq_some_iff.mp read
  rw [burden, treeRead]
  exact Json.Tree.weight_of_json? value

/-! What an envelope is decrypted to. -/

namespace Jwe

/-- The octets of the two texts that are decrypted. -/
def sealedWeight (j : Jwe) : Nat := Json.stringWeight j.ciphertext + Json.stringWeight j.tag

theorem sealedWeight_of_read? {t : Json.Tree} (read : read? t = some j) :
    j.sealedWeight ≤ t.weight := by
  simp only [read?, Option.bind_eq_bind, Option.bind_eq_some_iff, Option.pure_def,
    Option.some.injEq] at read
  obtain ⟨fields, fieldsRead, header, -, recipients, -, iv, -, ciphertext, ciphertextRead, tag,
    tagRead, rfl⟩ := read
  obtain ⟨t₁, found₁, string₁⟩ := Option.bind_eq_some_iff.mp ciphertextRead
  obtain ⟨t₂, found₂, string₂⟩ := Option.bind_eq_some_iff.mp tagRead
  have both := Json.Fields.weight_of_lookups found₁ found₂ (by decide)
  rw [Json.Tree.weight_of_string? string₁, Json.Tree.weight_of_string? string₂] at both
  exact both.trans (Json.Fields.weight_of_read? fieldsRead)

theorem sealedWeight_of_parse {text : String} (parsed : parse text = .ok r) :
    r.jwe.sealedWeight ≤ burden text := by
  obtain ⟨read, -⟩ := parse_eq_ok_iff.mp parsed
  obtain ⟨t, treeRead, read⟩ := Option.bind_eq_some_iff.mp read
  rw [burden, treeRead]
  exact sealedWeight_of_read? read

theorem length_of_decodeBase64Url {text : String} (decoded : decodeBase64Url text = .ok bytes) :
    bytes.length ≤ Json.stringWeight text := by
  unfold decodeBase64Url at decoded
  split at decoded
  · next found =>
      obtain rfl := Except.ok.inj decoded
      have bits := Base64Url.length_of_decode? found
      have octets := Utf8.length_encode_ge text
      rw [Json.stringWeight]
      omega
  · contradiction

namespace Received

theorem length_of_decrypt {r : Received} {sender : Option Key}
    (decrypted : r.decrypt sender key = .ok payload) : payload.length < r.jwe.sealedWeight := by
  obtain ⟨o, yields⟩ := decrypt_eq_ok_iff.mp decrypted
  have shorter := ContentAlgorithm.length_of_decrypt yields.payload
  have tagged : 0 < o.enc.tagSize := by cases o.enc <;> decide
  have tagLength := length_of_decodeBase64Url yields.begins.tag
  have contentLength := length_of_decodeBase64Url yields.content
  rw [List.length_append] at shorter
  rw [sealedWeight]
  omega

theorem length_of_decryptBy {r : Received} {sender : Option Key} {kids : List String}
    (decrypted : r.decryptBy sender keys all = .ok (payload, kids)) :
    payload.length < r.jwe.sealedWeight := by
  obtain ⟨key, -, keyDecrypted⟩ := decryptBy_sound decrypted
  exact length_of_decrypt keyDecrypted

end Received

end Jwe

namespace Agent

/-- An envelope was decrypted, whatever may fail after that. -/
inductive Decrypts (a : Agent) (options : UnpackOptions) (outer : Outer) (text : String) :
    Opened → Prop
  | anon (received : Envelope.ofText text = .ok (.encrypted r))
      (opened : a.openAnon options.allKeys outer r = .ok o) : Decrypts a options outer text o
  | auth (received : Envelope.ofText text = .ok (.encrypted r))
      (opened : a.openAuth options.allKeys outer r = .ok (sender, o)) :
      Decrypts a options outer text o

theorem length_of_openAnon {a : Agent} (opened : a.openAnon all outer r = .ok o) :
    o.payload.length < r.jwe.sealedWeight := by
  obtain ⟨-, opened⟩ := openAnon_eq_ok_iff.mp opened
  obtain ⟨-, -, -, kids, decrypted⟩ := openAnon_nothing_eq_ok_iff.mp opened
  obtain ⟨-, -, -, decrypted⟩ := Jwe.Received.anonDecrypt_eq_ok_iff.mp decrypted
  exact Jwe.Received.length_of_decryptBy decrypted

theorem length_of_openAuth {a : Agent} (opened : a.openAuth all outer r = .ok (sender, o)) :
    o.payload.length < r.jwe.sealedWeight := by
  obtain ⟨-, opened⟩ := openAuth_eq_ok_iff.mp opened
  obtain ⟨withSender, -, key, -, -, kids, decrypted⟩ := openAuth_nothing_eq_ok_iff.mp opened
  obtain ⟨-, -, decrypted⟩ := Jwe.Received.authDecrypt_eq_ok_iff.mp decrypted
  have shorter := Jwe.Received.length_of_decryptBy decrypted
  rwa [Jwe.Received.jwe_of_withSender withSender] at shorter

/-- A payload is shorter than the texts that it was decrypted from. -/
theorem Decrypts.shorter {a : Agent} {options : UnpackOptions} {text : String}
    (decrypts : Decrypts a options outer text o) :
    ∃ r, Envelope.ofText text = .ok (.encrypted r) ∧ o.payload.length < r.jwe.sealedWeight := by
  cases decrypts with
  | anon received opened => exact ⟨_, received, length_of_openAnon opened⟩
  | auth received opened => exact ⟨_, received, length_of_openAuth opened⟩

theorem Decrypts.length_lt {a : Agent} {options : UnpackOptions} {text : String}
    (decrypts : Decrypts a options outer text o) : o.payload.length < burden text := by
  obtain ⟨r, received, shorter⟩ := decrypts.shorter
  exact shorter.trans_le (Jwe.sealedWeight_of_parse (Envelope.encrypted_of_ofText received))

end Agent

/-! The calls of the recursion. -/

/-- Puts a layer around what was unwrapped inside of it. -/
def Unwrapped.push (layer : Layer) (u : Unwrapped) : Unwrapped :=
  { u with layers := layer :: u.layers }

namespace Agent

/-- Unwrapping a text calls itself with what was in an encrypted envelope. -/
inductive Calls (a : Agent) (options : UnpackOptions) : Outer × String → Layer → Outer × String →
    Prop
  | inside (opens : Opens a options text layer content) (encrypted : layer.isSigned = false)
      (admits : outer.Admits layer) : Calls a options (outer, text) layer (layer.outer, content)

theorem Calls.decrypts {a : Agent} {options : UnpackOptions} {inner : Outer × String}
    (calls : Calls a options (outer, text) layer inner) :
    ∃ o, layer.opened? = some o ∧ Decrypts a options outer text o := by
  cases calls with
  | inside opens encrypted admits =>
      cases opens with
      | signed => contradiction
      | auth received algorithm opened =>
          exact ⟨_, rfl, .auth received (openAuth_eq_ok_iff.mpr ⟨admits, opened⟩)⟩
      | anon received algorithm opened =>
          exact ⟨_, rfl, .anon received (openAnon_eq_ok_iff.mpr ⟨admits, opened⟩)⟩
      | forward received algorithm opened =>
          exact ⟨_, rfl, .anon received (openAnon_eq_ok_iff.mpr ⟨admits, opened⟩)⟩

theorem burden_of_payloadText {payload : Bytes} {text : String}
    (inside : payloadText payload = .ok text) :
    burden text ≤ payload.length := by
  unfold payloadText at inside
  split at inside
  · next decoded =>
      obtain rfl := Except.ok.inj inside
      rw [Utf8.decode?_eq_some_iff.mp decoded]
      exact burden_le _
  · contradiction

theorem burden_of_forwardToUs {a : Agent} {text carried : String}
    (toUs : ForwardToUs a text carried) : burden carried ≤ burden text := by
  obtain ⟨value, m, proof, f, received, read, forward, -, rfl⟩ := toUs
  calc burden f.carried.text ≤ f.carried.weight := burden_text_le f.carried
    _ ≤ value.weight := Forward.weight_of_ofMessage? read forward
    _ ≤ burden text := weight_le_burden (Envelope.read?_of_ofText received)

/-- The strings of what is gone on with are no longer than the payload, also where it was taken out
of a forward message. -/
theorem Calls.burden_le {a : Agent} {options : UnpackOptions} {inner : Outer × String}
    (calls : Calls a options outer layer inner) (opened : layer.opened? = some o) :
    burden inner.2 ≤ o.payload.length := by
  cases calls with
  | inside opens =>
      cases opens with
      | signed => contradiction
      | auth received algorithm found inside | anon received algorithm found inside =>
          obtain rfl := Option.some.inj opened
          exact burden_of_payloadText inside
      | forward received algorithm found inside asked toUs =>
          obtain rfl := Option.some.inj opened
          exact (burden_of_forwardToUs toUs).trans (burden_of_payloadText inside)

theorem Calls.burden_lt {a : Agent} {options : UnpackOptions} {outer inner : Outer × String}
    (calls : Calls a options outer layer inner) : burden inner.2 < burden outer.2 := by
  obtain ⟨o, opened, decrypts⟩ := calls.decrypts
  exact Nat.lt_of_le_of_lt (calls.burden_le opened) decrypts.length_lt

/-! The fuel. -/

/-- With whatever fuel, unwrapping a text has an answer of its own or that of one call inside. -/
def AnswersOrCalls (a : Agent) (options : UnpackOptions) (outer : Outer) (text : String) : Prop :=
  (∃ answer, ∀ fuel, (a.unwrapFrom options (fuel + 1) outer text).run = some answer) ∨
    ∃ layer inner, Calls a options (outer, text) layer inner ∧
      ∀ fuel, (a.unwrapFrom options (fuel + 1) outer text).run =
        (a.unwrapFrom options fuel inner.1 inner.2).run.map (Except.map (.push layer))

theorem unwrapFrom_anon (a : Agent) (options : UnpackOptions) (outer : Outer)
    (received : Envelope.ofText text = .ok (.encrypted r))
    (algorithm : r.algorithm = .ok (.anon anonAlgorithm)) :
    AnswersOrCalls a options outer text := by
  simp only [AnswersOrCalls, unwrapFrom, received, algorithm, Fuelled.lift_ok_bind]
  cases opened : a.openAnon options.allKeys outer r with
  | error e => exact .inl ⟨.error e, fun fuel => rfl⟩
  | ok o =>
      simp only [Fuelled.lift_ok_bind]
      cases inside : payloadText o.payload with
      | error e => exact .inl ⟨.error e, fun fuel => rfl⟩
      | ok content =>
          simp only [Fuelled.lift_ok_bind]
          obtain ⟨admits, opened⟩ := openAnon_eq_ok_iff.mp opened
          cases carries : a.carriedOn? options content with
          | error e => exact .inl ⟨.error e, fun fuel => rfl⟩
          | ok carriedOn =>
              simp only [Fuelled.lift_ok_bind]
              cases carriedOn with
              | none =>
                  exact .inr ⟨_, _, .inside (.anon received algorithm opened inside carries) rfl
                    admits, fun fuel => Fuelled.bind_pure_run _ _⟩
              | some carried =>
                  obtain ⟨asked, toUs⟩ := carriedOn?_eq_some_iff.mp carries
                  exact .inr ⟨_, _,
                    .inside (.forward received algorithm opened inside asked toUs) rfl admits,
                    fun fuel => Fuelled.bind_pure_run _ _⟩

theorem unwrapFrom_auth (a : Agent) (options : UnpackOptions) (outer : Outer)
    (received : Envelope.ofText text = .ok (.encrypted r))
    (algorithm : r.algorithm = .ok (.auth authAlgorithm)) :
    AnswersOrCalls a options outer text := by
  simp only [AnswersOrCalls, unwrapFrom, received, algorithm, Fuelled.lift_ok_bind]
  cases opened : a.openAuth options.allKeys outer r with
  | error e => exact .inl ⟨.error e, fun fuel => rfl⟩
  | ok found =>
      obtain ⟨sender, o⟩ := found
      simp only [Fuelled.lift_ok_bind]
      cases inside : payloadText o.payload with
      | error e => exact .inl ⟨.error e, fun fuel => rfl⟩
      | ok content =>
          simp only [Fuelled.lift_ok_bind]
          obtain ⟨admits, opened⟩ := openAuth_eq_ok_iff.mp opened
          exact .inr ⟨_, _, .inside (.auth received algorithm opened inside) rfl admits,
            fun fuel => Fuelled.bind_pure_run _ _⟩

theorem unwrapFrom_succ (a : Agent) (options : UnpackOptions) (outer : Outer) (text : String) :
    AnswersOrCalls a options outer text := by
  cases received : Envelope.ofText text with
  | error e => exact .inl ⟨.error e, fun fuel => by rw [unwrapFrom, received]; rfl⟩
  | ok envelope =>
      cases envelope with
      | plain value =>
          simp only [AnswersOrCalls, unwrapFrom, received, Fuelled.lift_ok_bind]
          cases Message.ofWire value with
          | error e => exact .inl ⟨.error e, fun fuel => rfl⟩
          | ok found => exact .inl ⟨.ok _, fun fuel => rfl⟩
      | signed j =>
          simp only [AnswersOrCalls, unwrapFrom, received, Fuelled.lift_ok_bind]
          cases a.checkSignatures j with
          | error e => exact .inl ⟨.error e, fun fuel => rfl⟩
          | ok signers =>
              cases openSigned j with
              | error e => exact .inl ⟨.error e, fun fuel => rfl⟩
              | ok found => exact .inl ⟨.ok _, fun fuel => rfl⟩
      | encrypted r =>
          cases algorithm : r.algorithm with
          | error e =>
              simp only [AnswersOrCalls, unwrapFrom, received, algorithm, Fuelled.lift_ok_bind]
              exact .inl ⟨.error e, fun fuel => rfl⟩
          | ok found =>
              cases found with
              | anon => exact a.unwrapFrom_anon options outer received algorithm
              | auth => exact a.unwrapFrom_auth options outer received algorithm

/-- Fuel that is more than the burden of the text suffices, and how much it is does not matter. -/
theorem exists_unwrapFrom (a : Agent) (options : UnpackOptions) (outer : Outer) {text : String}
    (enough : burden text < least) :
    ∃ answer, ∀ fuel, least ≤ fuel → (a.unwrapFrom options fuel outer text).run = some answer := by
  -- On the bound, since every call is about another text.
  induction least generalizing outer text with
  | zero => contradiction
  | succ least ih =>
      rcases a.unwrapFrom_succ options outer text with
        ⟨answer, answers⟩ | ⟨layer, inner, calls, goesOn⟩
      · refine ⟨answer, fun fuel most => ?_⟩
        obtain ⟨fuel, rfl⟩ := Nat.exists_eq_succ_of_ne_zero (Nat.ne_zero_of_lt most)
        exact answers fuel
      · have lighter := calls.burden_lt
        obtain ⟨answer, answers⟩ := ih inner.1
          (Nat.lt_of_lt_of_le lighter (Nat.le_of_lt_succ enough))
        refine ⟨answer.map (.push layer), fun fuel most => ?_⟩
        obtain ⟨fuel, rfl⟩ := Nat.exists_eq_succ_of_ne_zero (Nat.ne_zero_of_lt most)
        rw [Nat.succ_eq_add_one, goesOn, answers fuel (by omega), Option.map_some]

/-- What a text unwraps to from inside of an envelope, or from outside of all. -/
def unwrapInside (a : Agent) (options : UnpackOptions) (outer : Outer) (text : String) :
    Result Unwrapped :=
  match a.unwrapFrom options (layerLimit text) outer text with
  | some answer => answer
  | none => .error (.malformed .notJson)

theorem unwrapInside_eq (a : Agent) (options : UnpackOptions) (outer : Outer) {text : String}
    (enough : burden text < fuel) :
    (a.unwrapFrom options fuel outer text).run = some (a.unwrapInside options outer text) := by
  obtain ⟨answer, answers⟩ := a.exists_unwrapFrom options outer enough
  obtain ⟨answer', answers'⟩ := a.exists_unwrapFrom options outer
    (Nat.lt_succ_self (burden text))
  have limit : burden text + 1 ≤ layerLimit text := by
    have := burden_le text
    rw [layerLimit]
    omega
  have same : answer = answer' :=
    Option.some.inj ((answers fuel (Nat.le_refl _)).symm.trans (answers' fuel enough))
  have unwrapped : a.unwrapInside options outer text = answer' := by
    have found := answers' _ limit
    unfold unwrapInside
    split
    · next answer'' unwrapped => exact Option.some.inj (unwrapped.symm.trans found)
    · next none_ => exact absurd (none_.symm.trans found) (by simp)
  rw [answers fuel (Nat.le_refl _), same, unwrapped]

theorem unwrap_eq (a : Agent) (options : UnpackOptions) {text : String}
    (enough : burden text < fuel) :
    (a.unwrapFrom options fuel .nothing text).run = some (a.unwrap options text) :=
  a.unwrapInside_eq options .nothing enough

/-! The payloads of a run. -/

/-- What is decrypted from a call on, one after the other, up to any point. -/
inductive Decryptions (a : Agent) (options : UnpackOptions) : Outer × String → List Opened → Prop
  | none : Decryptions a options call []
  | last (decrypts : Decrypts a options outer text o) : Decryptions a options (outer, text) [o]
  | more {inner : Outer × String} (calls : Calls a options call layer inner)
      (opened : layer.opened? = some o)
      (rest : Decryptions a options inner os) : Decryptions a options call (o :: os)

theorem Decryptions.descending {a : Agent} {options : UnpackOptions} {call : Outer × String}
    (decryptions : Decryptions a options call os) :
    (burden call.2 :: os.map (·.payload.length)).Pairwise (· > ·) := by
  induction decryptions with
  | none => simp
  | last decrypts => simpa using decrypts.length_lt
  | @more call layer o os inner calls opened rest ih =>
      obtain ⟨o', opened', decrypts⟩ := calls.decrypts
      obtain rfl : o = o' := Option.some.inj (opened.symm.trans opened')
      -- The burden of what is gone on with lies between this payload and the next.
      have carried := calls.burden_le opened
      have shorter : o.payload.length < burden call.2 := decrypts.length_lt
      obtain ⟨later, descending⟩ := List.pairwise_cons.mp ih
      rw [List.map_cons, List.pairwise_cons, List.pairwise_cons]
      refine ⟨fun n member => ?_, fun n member => ?_, descending⟩
      · rcases List.mem_cons.mp member with rfl | member
        · exact shorter
        · have := later n member
          omega
      · have := later n member
        omega

theorem length_le_of_descending {ns : List Nat} (descending : (n :: ns).Pairwise (· > ·)) :
    ns.length ≤ n := by
  induction ns generalizing n with
  | nil => exact Nat.zero_le _
  | cons m ns ih =>
      obtain ⟨later, descending⟩ := List.pairwise_cons.mp descending
      have below := later m List.mem_cons_self
      have rest := ih descending
      rw [List.length_cons]
      omega

theorem burden_pos_of_signed {text : String} (received : Envelope.ofText text = .ok (.signed j)) :
    0 < burden text := by
  obtain ⟨members, read⟩ := Envelope.object_of_ofText received
  have signatures : "signatures" ∈ Members.names members := by
    rw [Envelope.ofText_of_object read] at received
    split at received
    · obtain ⟨r, -, different⟩ := map_eq_ok_iff.mp received
      contradiction
    · split at received
      · next found => exact List.contains_iff_mem.mp found
      · have different := Except.ok.inj received
        contradiction
  calc 0 < Json.stringWeight "signatures" := by decide
    _ ≤ (Json.object members).weight := Json.stringWeight_le_of_mem_names signatures
    _ ≤ burden text := weight_le_burden read

/-- The layers that were removed, but for a signed one, are what was decrypted. -/
theorem decryptions_of_unwrapFrom {a : Agent} {options : UnpackOptions}
    (unwrapped : a.unwrapFrom options fuel outer text = some (.ok w)) :
    Decryptions a options (outer, text) (w.layers.filterMap Layer.opened?) ∧
      w.layers.length ≤ burden text := by
  induction fuel generalizing outer text w with
  | zero => simp [unwrapFrom] at unwrapped
  | succ fuel ih =>
      have whole := unwrapped
      rw [unwrapFrom, Fuelled.bind_eq_ok_iff] at unwrapped
      obtain ⟨envelope, received, unwrapped⟩ := unwrapped
      rw [Fuelled.lift_eq_ok_iff] at received
      cases envelope with
      | plain value =>
          obtain ⟨⟨m, proof⟩, read, unwrapped⟩ := Fuelled.bind_eq_ok_iff.mp unwrapped
          obtain rfl := Fuelled.pure_eq_ok_iff.mp unwrapped
          exact ⟨.none, Nat.zero_le _⟩
      | signed j =>
          obtain ⟨signers, checked, unwrapped⟩ := Fuelled.bind_eq_ok_iff.mp unwrapped
          obtain ⟨⟨m, proof⟩, opened, unwrapped⟩ := Fuelled.bind_eq_ok_iff.mp unwrapped
          obtain rfl := Fuelled.pure_eq_ok_iff.mp unwrapped
          exact ⟨.none, burden_pos_of_signed received⟩
      | encrypted r =>
          obtain ⟨layer, content, u, opens, encrypted, admits, innerUnwrapped, rfl⟩ :=
            unwrapFrom_encrypted_sound received whole
          have calls : Calls a options (outer, text) layer (layer.outer, content) :=
            .inside opens encrypted admits
          obtain ⟨o, opened, -⟩ := calls.decrypts
          obtain ⟨decryptions, fewer⟩ := ih innerUnwrapped
          have lighter : burden content < burden text := calls.burden_lt
          refine ⟨?_, ?_⟩
          · rw [List.filterMap_cons, opened]
            exact .more calls opened decryptions
          · rw [List.length_cons]
            omega

/-! What is unwrapped is the nesting of the text. -/

/-- Unwrapping finds the nesting of a text, however deep, if that is of the right order. -/
theorem unwrap_eq_ok_iff {a : Agent} {options : UnpackOptions} :
    a.unwrap options text = .ok w ↔
      ∃ (s : Stack) (value : Json), s.layers = w.layers ∧ Nested a options text s.layers value ∧
        Message.ofWire value = .ok (w.message, w.proof) := by
  constructor
  · exact unwrap_sound
  · intro ⟨s, value, layers, nested, read⟩
    have within : s.Within .nothing := trivial
    have removed := unwrapFrom_complete nested rfl within read (Nat.lt_succ_self s.layers.length)
    obtain ⟨-, fewer⟩ := decryptions_of_unwrapFrom removed
    have enough : s.layers.length < layerLimit text :=
      calc s.layers.length ≤ burden text := fewer
        _ ≤ (Utf8.encode text).length := burden_le text
        _ < layerLimit text := by rw [layerLimit]; omega
    rw [unwrap_complete nested read enough, layers]

/-- Where each envelope is opened alike, the same is unwrapped. -/
theorem unwrap_of_opens {a b : Agent} {options options' : UnpackOptions}
    (unwrapped : a.unwrap options text = .ok w)
    (opens : ∀ layer ∈ w.layers, ∀ outside inside, Opens a options outside layer inside →
      Opens b options' outside layer inside) :
    b.unwrap options' text = .ok w := by
  obtain ⟨s, value, layers, nested, read⟩ := unwrap_eq_ok_iff.mp unwrapped
  rw [← layers] at opens
  exact unwrap_eq_ok_iff.mpr ⟨s, value, layers, nested.imp opens, read⟩

/-- That unpacking ends, and how soon. -/
structure Terminates (a : Agent) (options : UnpackOptions) : Prop where
  /-- The recursion makes no other calls than these. -/
  recursion : ∀ outer text, AnswersOrCalls a options outer text
  wellFounded : WellFounded fun inner outer => ∃ layer, Calls a options outer layer inner
  /-- Each payload is shorter than the one before it, and the first is shorter than the text. -/
  descending : ∀ outer text os, Decryptions a options (outer, text) os →
    ((Utf8.encode text).length :: os.map (·.payload.length)).Pairwise (· > ·)
  bounded : ∀ outer text os, Decryptions a options (outer, text) os →
    os.length ≤ (Utf8.encode text).length
  removed : ∀ text w, a.unwrap options text = .ok w →
    Decryptions a options (.nothing, text) (w.layers.filterMap Layer.opened?) ∧
      w.layers.length ≤ (Utf8.encode text).length
  /-- The recursion needs no more fuel than the text has octets. -/
  answers : ∀ text fuel, (Utf8.encode text).length < fuel →
    (a.unwrapFrom options fuel .nothing text).run = some (a.unwrap options text)

/-- Unpacking ends on every text, also on forward messages whose content is written anew. -/
theorem unwrap_terminates (a : Agent) (options : UnpackOptions) : Terminates a options where
  recursion := a.unwrapFrom_succ options
  wellFounded := by
    refine Subrelation.wf ?_ (measure fun call : Outer × String => burden call.2).wf
    rintro inner outer ⟨layer, calls⟩
    exact calls.burden_lt
  descending := by
    intro outer text os decryptions
    obtain ⟨later, descending⟩ := List.pairwise_cons.mp decryptions.descending
    have most := burden_le text
    exact List.pairwise_cons.mpr
      ⟨fun n member => Nat.lt_of_lt_of_le (later n member) most, descending⟩
  bounded := by
    intro outer text os decryptions
    have fewer := length_le_of_descending decryptions.descending
    rw [List.length_map] at fewer
    exact fewer.trans (burden_le text)
  removed := by
    intro text w unwrapped
    have removed := a.unwrap_eq options (Nat.lt_succ_self (burden text))
    rw [unwrapped] at removed
    obtain ⟨decryptions, fewer⟩ := decryptions_of_unwrapFrom removed
    exact ⟨decryptions, fewer.trans (burden_le text)⟩
  answers := fun text _ enough => a.unwrap_eq options (Nat.lt_of_le_of_lt (burden_le text) enough)

end Agent

end DidMessaging
