import DidMessaging.Proofs.Agent.Encrypted
import DidMessaging.Proofs.Agent.Peeling

namespace DidMessaging

open Result

/-! The forward message for one mediator. -/

namespace Forward

def around (id next : String) (headers : Members) (carried : Json) : Message where
  id
  type := type
  body := .object [("next", .string next)]
  attachments := some [.ofJson carried]
  extra := headers

theorem foldl_withHeader (headers : Members) (m : Message) :
    headers.foldl (fun m h => m.withHeader h.1 h.2) m =
      { m with extra := headers.foldl (fun map h => Members.insert h.1 h.2 map) m.extra } := by
  induction headers generalizing m with
  | nil => rfl
  | cons h headers ih => rw [List.foldl_cons, List.foldl_cons, ih, Message.withHeader]

theorem create_sound {next : String} {headers : Members}
    (created : create packed next headers e = .ok (m, e')) :
    e'.octet = e.octet ∧ m.validate = .ok () ∧ ∃ carried id, Json.read? packed = some carried ∧
      m = around id next (Members.ofList headers) carried := by
  unfold create at created
  cases read : Json.read? packed with
  | none => simp [read, throw, throwThe, MonadExceptOf.throw, StateT.lift, bind,
      Except.bind] at created
  | some carried =>
      simp only [read] at created
      obtain ⟨m', between, drawn, created⟩ := Drawn.bind_eq_ok_iff.mp created
      obtain ⟨id, afterId, idDrawn, drawn⟩ := Drawn.bind_eq_ok_iff.mp drawn
      obtain ⟨bytes, afterBytes, taken, idDrawn⟩ := Drawn.bind_eq_ok_iff.mp idDrawn
      obtain ⟨rfl, rfl⟩ := Drawn.pure_eq_ok_iff.mp idDrawn
      obtain ⟨rfl, rfl⟩ := Drawn.pure_eq_ok_iff.mp drawn
      obtain ⟨⟨⟩, checked, created⟩ := Drawn.lift_bind_eq_ok_iff.mp created
      obtain ⟨rfl, rfl⟩ := Drawn.pure_eq_ok_iff.mp created
      exact ⟨Key.octet_of_bytes taken, ofCheck_eq_ok_iff.mp checked, carried,
        Uuid.text (Uuid.marked bytes.reverse), rfl, foldl_withHeader headers _⟩

theorem create_complete (next : String) (headers : Members) (e : Entropy) {carried : Json}
    (read : Json.read? packed = some carried)
    (valid : ∀ id, (around id next (Members.ofList headers) carried).validate = .ok ()) :
    ∃ m, create packed next headers e = .ok (m, (e.take 16).2) := by
  have drawn : Uuid.draw e =
      .ok (Uuid.text (Uuid.marked (e.take 16).1.reverse), (e.take 16).2) := rfl
  unfold create
  simp only [read]
  refine ⟨around (Uuid.text (Uuid.marked (e.take 16).1.reverse)) next (Members.ofList headers)
    carried, ?_⟩
  refine Drawn.bind_eq_ok_iff.mpr ⟨_, _, Drawn.bind_eq_ok_iff.mpr ⟨_, _, drawn, rfl⟩, ?_⟩
  refine Drawn.lift_bind_eq_ok_iff.mpr ⟨(), ofCheck_eq_ok_iff.mpr ?_, ?_⟩
  · rw [foldl_withHeader]
    exact valid _
  · rw [foldl_withHeader]
    rfl

theorem ofMessage?_around (id next : String) (headers : Members) (carried : Json) :
    ofMessage? (around id next headers carried) =
      some ⟨around id next headers carried, next, carried⟩ := rfl

variable {headers : Members} {carried : Json} (id next : String)

theorem canonical_around (sorted : (Json.object headers).Canonical)
    (canonical : carried.Canonical) : (around id next headers carried).Canonical where
  body := by simp [around, Json.Canonical, Json.CanonicalMembers, Members.Sorted, Members.names]
  attachments := by
    intro as listed a attached
    obtain rfl := Option.mem_some.mp listed
    obtain rfl := List.mem_singleton.mp attached
    exact ⟨canonical, by simp⟩
  sorted := sorted.1
  extra := sorted.2

theorem ownMembers_around : (around id next headers carried).ownMembers =
    [("id", .string id), ("typ", .string MediaType.plain.name), ("type", .string type),
      ("body", .object [("next", .string next)]),
      ("attachments", .array [.object [("data", .object [("json", carried)])]])] := rfl

theorem legible_around (whole : (Json.object headers).Whole)
    (deep : ∀ h ∈ headers, h.2.depth ≤ 100) (legible : carried.Legible 100) :
    (around id next headers carried).json.Legible Json.Tree.deepest := by
  rw [Message.json_eq_sorted, ownMembers_around]
  refine Json.Legible.sorted ⟨?_, ?_⟩
  · refine ⟨trivial, trivial, trivial, ⟨trivial, trivial⟩, ?_, whole⟩
    exact ⟨⟨⟨legible.whole, trivial⟩, trivial⟩, trivial⟩
  · have deepHeaders := Json.membersDepth_le_iff.mpr deep
    have deepCarried := legible.deep
    simp only [around, List.cons_append, List.nil_append, Json.depth, Json.membersDepth,
      Json.itemsDepth, Json.Tree.deepest]
    omega

/-- Headers that can stand in a forward message beside its own. -/
structure Fits (headers : Members) : Prop where
  canonical : (Json.object headers).Canonical
  whole : (Json.object headers).Whole
  deep : ∀ h ∈ headers, h.2.depth ≤ 100
  plain : "recipients" ∉ Members.names headers ∧ "signatures" ∉ Members.names headers

theorem fits_nil : Fits [] := ⟨⟨.nil, trivial⟩, trivial, by simp, by simp [Members.names]⟩

/-- A message in the clear that is read as a forward message. -/
structure Stands (m : Message) (next : String) (carried : Json) : Prop where
  received : Envelope.ofText m.json.text = .ok (.plain m.json)
  read : Message.ofWire m.json = .ok (m, none)
  isForward : ofMessage? m = some ⟨m, next, carried⟩

theorem stands_around (id next : String) (fit : Fits headers) (canonical : carried.Canonical)
    (legible : carried.Legible 100) (valid : (around id next headers carried).validate = .ok ()) :
    Stands (around id next headers carried) next carried := by
  obtain ⟨received, read⟩ := Agent.received_json (canonical_around id next fit.canonical canonical)
    (Message.distinct_of_validate valid) rfl (legible_around id next fit.whole fit.deep legible)
    (by simp [around, Attachment.ofJson, Attachment.Content.jws]) fit.plain
  exact ⟨received, read, ofMessage?_around id next headers carried⟩

end Forward

/-! One mediator. -/

namespace Agent

variable {b : Agent} {d : Directory} {headers : Members} {algorithm : AnonAlgorithm}
  {recipient : String} {e e' : Entropy}

/-- The receiver of a text without a sender takes the envelope off, also when the text was read and
written again on the way. -/
theorem anonymous_of_anoncrypt {partner : Key → Prop} {keys : List Key}
    (encrypts : Jwe.anoncrypt (Utf8.encode plain) algorithm keys e = .ok (j, e'))
    (keeps : b.Keeps keys partner) (given : ∀ k, e.Gives k → partner k) :
    ∃ o, o.kids = b.keyring.held (keys.map (·.id)) ∧
      ∀ text ∈ [j.text, j.json.sorted.text], ∀ all, Anonymous b all text algorithm o plain := by
  obtain ⟨-, r, o, encrypted, named, opened, carries, kids⟩ :=
    openAnon_of_anoncrypt encrypts keeps given
  refine ⟨o, kids, fun text listed all => ⟨⟨r, ?_, named, opened all⟩, ?_⟩⟩
  · rcases List.mem_cons.mp listed with rfl | listed
    · exact encrypted
    · obtain rfl := List.mem_singleton.mp listed
      exact Envelope.ofText_jwe_sorted (Envelope.encrypted_of_ofText encrypted)
  · rw [carries, payloadText, Utf8.decode?_encode]

theorem anonymous_of_wrapOnce {partner : Key → Prop} {packed next routingKey w : String}
    (wraps : d.wrapOnce headers algorithm packed next routingKey e = .ok (w, e'))
    (fit : Forward.Fits headers) (read : Json.read? packed = some value)
    (legible : value.Legible 100)
    (keeps : ∀ keys, d.keyless.anoncryptKeys routingKey = .ok keys → b.Keeps keys partner)
    (given : ∀ k, e.Gives k → partner k) :
    e'.octet = e.octet ∧ ∃ keys m again o, d.keyless.anoncryptKeys routingKey = .ok keys ∧
      m.extra = headers ∧ Forward.Stands m next value ∧
      Json.read? w = some again ∧ again.Legible 100 ∧ o.kids = b.keyring.held (keys.map (·.id)) ∧
      ∀ text ∈ [w, again.text], ∀ all, Anonymous b all text algorithm o m.json.text := by
  unfold Directory.wrapOnce at wraps
  obtain ⟨m, afterMessage, created, wraps⟩ := Drawn.bind_eq_ok_iff.mp wraps
  obtain ⟨keys, found, wraps⟩ := Drawn.lift_bind_eq_ok_iff.mp wraps
  obtain ⟨j, afterEnvelope, encrypts, wraps⟩ := Drawn.bind_eq_ok_iff.mp wraps
  obtain ⟨rfl, rfl⟩ := Drawn.pure_eq_ok_iff.mp wraps
  obtain ⟨octet, valid, carried, id, carriedRead, made⟩ := Forward.create_sound created
  obtain rfl := Option.some.inj (carriedRead.symm.trans read)
  rw [Members.ofList_of_sorted fit.canonical.1] at made
  subst made
  obtain ⟨o, kids, anonymous⟩ := anonymous_of_anoncrypt encrypts (keeps keys found)
    fun k drawn => given k (drawn.of_octet octet)
  have legibleAgain : j.json.sorted.Legible 100 :=
    Json.Legible.sorted ⟨j.whole_json, Nat.le_trans j.depth_json_le (by decide)⟩
  exact ⟨(Jwe.encrypt_sound encrypts).1.trans octet, keys, Forward.around id next headers carried,
    j.json.sorted, o, found, rfl,
    Forward.stands_around id next fit (Json.canonical_of_read? read) legible valid,
    Json.read?_text j.whole_json j.depth_json, legibleAgain, kids, anonymous⟩

/-- The receiver of a forward message for one of its keys takes it off. -/
theorem unpackForward_of_stands {m : Message} {options : UnpackOptions}
    (anonymous : Anonymous b options.allKeys text algorithm o m.json.text)
    (stands : Forward.Stands m next value) :
    b.unpackForward text options = .ok ⟨m, next, value.text, o.kids⟩ :=
  unpackForward_eq_ok_iff.mpr ⟨algorithm, o, m.json.text, m.json, m, none, _, anonymous,
    stands.received, stands.read, stands.isForward, rfl⟩

end Agent

/-- After an id the stream gives a key that agrees with all of the keys. -/
def Entropy.Reaches (e : Entropy) (keys : List Key) : Prop :=
  ∃ curve k after, Key.ephemeral curve (e.take 16).2 = .ok (k, after) ∧
    ∀ key ∈ keys, ∃ z, k.agree key = .ok z

namespace Directory

variable {d : Directory} {headers : Members} {algorithm : AnonAlgorithm} {recipient : String}
  {e e' : Entropy}

theorem wrapOnce_complete {keys : List Key} {packed routingKey : String} {carried : Json}
    (read : Json.read? packed = some carried) (next : String) (headers : Members)
    (algorithm : AnonAlgorithm)
    (valid : ∀ id, (Forward.around id next (Members.ofList headers) carried).validate = .ok ())
    (found : d.keyless.anoncryptKeys routingKey = .ok keys) (some_ : keys ≠ [])
    (reaches : e.Reaches keys) :
    ∃ j e', d.wrapOnce headers algorithm packed next routingKey e = .ok (Jwe.text j, e') ∧
      e'.octet = e.octet := by
  obtain ⟨m, created⟩ := Forward.create_complete next headers e read valid
  obtain ⟨curve, k, after, drawn, agrees⟩ := reaches
  have sameCurve : ∀ key ∈ keys ++ (none : Option Key).toList, key.curve = curve := by
    intro key listed
    obtain ⟨z, agreed⟩ := agrees key (by simpa using listed)
    exact (Key.curve_of_agree agreed).symm.trans (Key.ephemeral_sound drawn).2.1
  obtain ⟨j, e', encrypts⟩ := Jwe.encrypt_complete (Utf8.encode (m.wireText none))
    algorithm.content Jwe.sized_anon some_ sameCurve drawn fun key listed => by
      obtain ⟨z, agreed⟩ := agrees key listed
      exact ⟨z, bind_eq_ok_iff.mpr ⟨z, agreed, rfl⟩⟩
  refine ⟨j, e', Drawn.bind_eq_ok_iff.mpr ⟨m, _, created, Drawn.lift_bind_eq_ok_iff.mpr
    ⟨keys, found, Drawn.bind_eq_ok_iff.mpr ⟨j, e', encrypts, rfl⟩⟩⟩, ?_⟩
  exact (Jwe.encrypt_sound encrypts).1

/-! All of the way. -/

/-- A text goes along agents, each of them with the key that it is routed by. Each finds in it a
forward message for that key, with the headers on it and the one to pass it on to, and passes on
what was carried. At the end of the way there is the value. -/
inductive Delivered (d : Directory) (headers : Members) (recipient : String) (value : Json) :
    List (Agent × String) → String → Prop
  | arrived (read : Json.read? w = some value) : Delivered d headers recipient value [] w
  | passed {b : Agent} {m : Message} {hops : List (Agent × String)}
      (found : d.keyless.anoncryptKeys key = .ok keys) (extra : m.extra = headers)
      (unpacked : ∀ options, b.unpackForward w options = .ok ⟨m,
        (hops.map Prod.snd).head?.getD recipient, carried, b.keyring.held (keys.map (·.id))⟩)
      (rest : Delivered d headers recipient value hops carried) :
      Delivered d headers recipient value ((b, key) :: hops) w

/-- The text delivered is the one that was made or, after a hop, the same value written again. -/
theorem delivered_of_read {partner : Key → Prop} {hops : List (Agent × String)}
    (wraps : d.wrapInForward headers algorithm t recipient (hops.map Prod.snd) e = .ok (w, e'))
    (fit : Forward.Fits headers) (read : Json.read? t = some value) (legible : value.Legible 100)
    (keeps : ∀ hop ∈ hops, ∀ keys, d.keyless.anoncryptKeys hop.2 = .ok keys →
      hop.1.Keeps keys partner)
    (given : ∀ k, e.Gives k → partner k) :
    e'.octet = e.octet ∧ ∃ again, Json.read? w = some again ∧ again.Legible 100 ∧
      ∀ text ∈ [w, again.text], Delivered d headers recipient value hops text := by
  -- A hop passes on what it reads and writes again, never the text that was wrapped: the induction
  -- is on the delivery of both.
  induction hops generalizing w e' with
  | nil =>
      obtain ⟨rfl, rfl⟩ := Drawn.pure_eq_ok_iff.mp wraps
      refine ⟨rfl, value, read, legible, fun text listed => .arrived ?_⟩
      rcases List.mem_cons.mp listed with rfl | listed
      · exact read
      · obtain rfl := List.mem_singleton.mp listed
        exact (legible.mono (by decide)).read?_text (Json.canonical_of_read? read)
  | cons hop hops ih =>
      obtain ⟨b, key⟩ := hop
      obtain ⟨inner, between, wrapsInner, wraps⟩ := Drawn.bind_eq_ok_iff.mp wraps
      obtain ⟨octet, carried, innerRead, innerLegible, delivered⟩ :=
        ih wrapsInner fun hop listed => keeps hop (List.mem_cons_of_mem _ listed)
      obtain ⟨sameOctet, keys, m, again, o, found, extra, stands, reads, legibleAgain, kids,
          anonymous⟩ := Agent.anonymous_of_wrapOnce wraps fit innerRead innerLegible
        (keeps (b, key) List.mem_cons_self) fun k drawn => given k (drawn.of_octet octet)
      refine ⟨sameOctet.trans octet, again, reads, legibleAgain, fun text listed => ?_⟩
      refine .passed found extra (fun options => ?_)
        (delivered carried.text (List.mem_cons_of_mem _ List.mem_cons_self))
      rw [← kids]
      exact Agent.unpackForward_of_stands (anonymous text listed options.allKeys) stands

theorem exists_read?_of_wrapInForward {hop : String} {hops : List String}
    (wraps : d.wrapInForward headers algorithm t recipient (hop :: hops) e = .ok (w, e')) :
    ∃ value, Json.read? t = some value := by
  induction hops generalizing hop w e' with
  | nil =>
      obtain ⟨inner, between, wrapsInner, wraps⟩ := Drawn.bind_eq_ok_iff.mp wraps
      obtain ⟨rfl, rfl⟩ := Drawn.pure_eq_ok_iff.mp wrapsInner
      obtain ⟨m, afterMessage, created, -⟩ := Drawn.bind_eq_ok_iff.mp wraps
      obtain ⟨-, -, carried, id, read, -⟩ := Forward.create_sound created
      exact ⟨carried, read⟩
  | cons next hops ih =>
      obtain ⟨inner, between, wrapsInner, -⟩ := Drawn.bind_eq_ok_iff.mp wraps
      exact ih wrapsInner

/-! A way of two hops, both to one agent. -/

section

open Agent

def urgent : Members := [("urgent", .bool true)]

theorem fits_urgent : Forward.Fits urgent where
  canonical := ⟨List.pairwise_singleton _ _, trivial, trivial⟩
  whole := ⟨trivial, trivial⟩
  deep := by simp [urgent, Json.depth]
  plain := by decide

def way : List (Agent × String) :=
  [(bob, "did:example:bob"), (bob, "did:example:bob#1")]

theorem anoncryptKeys_way {key : String} (listed : key ∈ way.map Prod.snd) :
    parties.keyless.anoncryptKeys key = .ok [bobKey.toPublic] := by
  have bobsUrl : parties.keyless.recipientKeys "did:example:bob#1" = .ok [bobKey.toPublic] := by
    refine bind_eq_ok_iff.mpr ⟨bobDocument, rfl, bind_eq_ok_iff.mpr
      ⟨bobKey.method "did:example:bob", rfl, bind_eq_ok_iff.mpr ⟨bobKey.toPublic, ?_, rfl⟩⟩⟩
    exact Key.ofMethod_pair rfl (X25519.length_publicKey _) List.length_replicate _
  rcases List.mem_cons.mp listed with rfl | listed
  · exact anoncryptKeys_of_singleton recipientKeys_bob
  · obtain rfl := List.mem_singleton.mp listed
    exact anoncryptKeys_of_singleton bobsUrl

theorem keeps_way (hop : Agent × String) (listed : hop ∈ way) (keys : List Key)
    (found : parties.keyless.anoncryptKeys hop.2 = .ok keys) : hop.1.Keeps keys stream.Gives := by
  rw [anoncryptKeys_way (List.mem_map_of_mem listed)] at found
  obtain rfl := Except.ok.inj found
  have isBob : hop.1 = bob := by
    rcases List.mem_cons.mp listed with rfl | listed
    · rfl
    · rw [List.mem_singleton.mp listed]
  rw [isBob]
  refine ⟨⟨_, List.mem_singleton_self _, rfl⟩, fun key listed _ => ?_⟩
  obtain rfl := List.mem_singleton.mp listed
  exact ⟨bobKey, key_bobKey, Key.samePoint_of_jwk rfl rfl rfl,
    fun k drawn => commutes_bobKey k (.inl drawn)⟩

theorem read_invitation : Json.read? invitation.json.text = some invitation.json :=
  Message.read?_text legible_invitation_deepest

theorem reaches_stream {before : Entropy} (octet : before.octet = stream.octet) :
    before.Reaches [bobKey.toPublic] := by
  have afterId : (before.take 16).2.octet = stream.octet := octet
  have drawn := Key.ephemeral_x25519 (before.take 16).2
  rw [take_stream afterId] at drawn
  refine ⟨.x25519, _, _, drawn, fun key listed => ?_⟩
  obtain rfl := List.mem_singleton.mp listed
  exact agree_bobKey "" 4 (by decide +kernel)

theorem wrapOnce_stream {before : Entropy} (octet : before.octet = stream.octet)
    (read : Json.read? packed = some value) (next : String) (key : String)
    (listed : key ∈ way.map Prod.snd) :
    ∃ w after, parties.wrapOnce urgent .usual packed next key before = .ok (w, after) ∧
      after.octet = stream.octet ∧ ∃ again, Json.read? w = some again := by
  obtain ⟨j, after, wraps, sameOctet⟩ := wrapOnce_complete read next urgent .usual (fun id => rfl)
    (anoncryptKeys_way listed) (List.cons_ne_nil _ _) (reaches_stream octet)
  exact ⟨j.text, after, wraps, sameOctet.trans octet, _, Json.read?_text j.whole_json j.depth_json⟩

/-- A text that was wrapped for a way of any length is delivered along it by agents that have the
private halves of the keys, and with no way to go it is not wrapped at all. -/
theorem wrapInForward_delivered {hops : List (Agent × String)}
    (wraps : d.wrapInForward headers algorithm t recipient (hops.map Prod.snd) e = .ok (w, e'))
    (fit : Forward.Fits headers) (legible : ∀ value, Json.read? t = some value → value.Legible 100)
    (keeps : ∀ hop ∈ hops, ∀ keys, d.keyless.anoncryptKeys hop.2 = .ok keys →
      hop.1.Keeps keys e.Gives) :
    (hops = [] → w = t) ∧
      (hops ≠ [] → ∃ value, Json.read? t = some value ∧
        Delivered d headers recipient value hops w) := by
  constructor
  · rintro rfl
    exact (Drawn.pure_eq_ok_iff.mp wraps).1.symm
  · intro way
    obtain ⟨hop, rest, rfl⟩ := List.exists_cons_of_ne_nil way
    obtain ⟨value, read⟩ := exists_read?_of_wrapInForward wraps
    obtain ⟨-, again, -, -, delivered⟩ :=
      delivered_of_read wraps fit read (legible value read) keeps fun k drawn => drawn
    exact ⟨value, read, delivered w List.mem_cons_self⟩

theorem wrapInForward_delivered_way :
    ∃ w e', parties.wrapInForward urgent .usual invitation.json.text "did:example:carol"
        ["did:example:bob", "did:example:bob#1"] stream = .ok (w, e') ∧
      Delivered parties urgent "did:example:carol" invitation.json way w := by
  obtain ⟨inner, between, wrapsInner, octet, carried, innerRead⟩ :=
    wrapOnce_stream rfl read_invitation "did:example:carol" "did:example:bob#1" (by decide)
  obtain ⟨w, e', wrapsOuter, -⟩ :=
    wrapOnce_stream octet innerRead "did:example:bob#1" "did:example:bob" (by decide)
  have wraps : parties.wrapInForward urgent .usual invitation.json.text "did:example:carol"
      (way.map Prod.snd) stream = .ok (w, e') :=
    Drawn.bind_eq_ok_iff.mpr ⟨inner, between, Drawn.bind_eq_ok_iff.mpr
      ⟨_, stream, rfl, wrapsInner⟩, wrapsOuter⟩
  obtain ⟨-, delivers⟩ := wrapInForward_delivered wraps fits_urgent (fun value found => by
    obtain rfl := Option.some.inj (read_invitation.symm.trans found)
    exact legible_invitation.mono (by decide)) keeps_way
  obtain ⟨value, found, delivered⟩ := delivers (by simp [way])
  obtain rfl := Option.some.inj (read_invitation.symm.trans found)
  exact ⟨w, e', wraps, delivered⟩

end

end Directory

end DidMessaging
