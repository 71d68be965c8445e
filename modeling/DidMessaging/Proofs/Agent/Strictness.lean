import DidMessaging.Proofs.Agent.Peeling
import DidMessaging.Proofs.Agent.Unpacking
import DidMessaging.Proofs.Envelope.Decryption

namespace DidMessaging

open Result

/-- Each of the keys that were tried decrypts the envelope to its payload. -/
def Opened.Unanimous (o : Opened) : Prop :=
  ∀ key ∈ o.keys, o.envelope.decrypt o.sender key = .ok o.payload

/-- A signed layer has no keys to be tried. -/
def Layer.Unanimous (l : Layer) : Prop := ∀ o ∈ l.opened?, o.Unanimous

/-! One envelope. -/

namespace Jwe.Received

variable {r : Received}

theorem decryptBy_all_iff {sender : Option Key} :
    (∃ kids, r.decryptBy sender keys true = .ok (payload, kids)) ↔
      (∃ kids, r.decryptBy sender keys false = .ok (payload, kids)) ∧
        ∀ key ∈ keys, r.decrypt sender key = .ok payload := by
  constructor
  · rintro ⟨kids, decrypted⟩
    have each := decrypt_of_decryptBy decrypted
    obtain ⟨key, member, -⟩ := decryptBy_sound decrypted
    exact ⟨decryptBy_complete false (List.ne_nil_of_mem member) each, each⟩
  · rintro ⟨⟨kids, decrypted⟩, each⟩
    obtain ⟨key, member, -⟩ := decryptBy_sound decrypted
    exact decryptBy_complete true (List.ne_nil_of_mem member) each

theorem anonDecrypt_all_iff :
    (∃ kids, r.anonDecrypt keys true = .ok (payload, kids)) ↔
      (∃ kids, r.anonDecrypt keys false = .ok (payload, kids)) ∧
        ∀ key ∈ keys, r.decrypt none key = .ok payload := by
  simp only [anonDecrypt_eq_ok_iff, exists_and_left, decryptBy_all_iff, and_assoc]

theorem authDecrypt_all_iff {sender : Key} :
    (∃ kids, r.authDecrypt sender keys true = .ok (payload, kids)) ↔
      (∃ kids, r.authDecrypt sender keys false = .ok (payload, kids)) ∧
        ∀ key ∈ keys, r.decrypt (some sender) key = .ok payload := by
  simp only [authDecrypt_eq_ok_iff, exists_and_left, decryptBy_all_iff, and_assoc]

end Jwe.Received

namespace Agent

variable {a : Agent} {inner inner' : String}

theorem openAnon_all_iff {o : Opened} :
    a.openAnon true .nothing r = .ok o ↔ a.openAnon false .nothing r = .ok o ∧ o.Unanimous := by
  simp only [openAnon_nothing_eq_ok_iff, Jwe.Received.anonDecrypt_all_iff]
  constructor
  · rintro ⟨rfl, anonymous, held, decrypted, each⟩
    refine ⟨⟨rfl, anonymous, held, decrypted⟩, ?_⟩
    rwa [Opened.Unanimous, anonymous]
  · rintro ⟨⟨rfl, anonymous, held, decrypted⟩, each⟩
    rw [Opened.Unanimous, anonymous] at each
    exact ⟨rfl, anonymous, held, decrypted, each⟩

theorem openAuth_all_iff {o : Opened} :
    a.openAuth true .nothing r = .ok (sender, o) ↔
      a.openAuth false .nothing r = .ok (sender, o) ∧ o.Unanimous := by
  simp only [openAuth_nothing_eq_ok_iff, Jwe.Received.authDecrypt_all_iff]
  constructor
  · rintro ⟨named, found, key, isSender, held, decrypted, each⟩
    refine ⟨⟨named, found, key, isSender, held, decrypted⟩, ?_⟩
    rwa [Opened.Unanimous, isSender]
  · rintro ⟨⟨named, found, key, isSender, held, decrypted⟩, each⟩
    rw [Opened.Unanimous, isSender] at each
    exact ⟨named, found, key, isSender, held, decrypted, each⟩

theorem Anonymous.unique (first : Anonymous a all text algorithm o inner)
    (second : Anonymous a all text algorithm' o' inner') : algorithm = algorithm' ∧ o = o' := by
  obtain ⟨⟨r, received, found, opened⟩, -⟩ := first
  obtain ⟨⟨r', received', found', opened'⟩, -⟩ := second
  simp_all

theorem anonymous_all_iff :
    Anonymous a true text algorithm o inner ↔
      Anonymous a false text algorithm o inner ∧ o.Unanimous := by
  constructor
  · rintro ⟨⟨r, received, found, opened⟩, inside⟩
    obtain ⟨opened, each⟩ := openAnon_all_iff.mp opened
    exact ⟨⟨⟨r, received, found, opened⟩, inside⟩, each⟩
  · rintro ⟨⟨⟨r, received, found, opened⟩, inside⟩, each⟩
    exact ⟨⟨r, received, found, openAnon_all_iff.mpr ⟨opened, each⟩⟩, inside⟩

end Agent

/-! All envelopes of a text. -/

variable {a : Agent} {unwrapForward : Bool}

theorem opens_all_iff :
    Opens a ⟨true, unwrapForward⟩ text layer content ↔
      Opens a ⟨false, unwrapForward⟩ text layer content ∧ layer.Unanimous := by
  have unanimous {o : Opened} (each : o.Unanimous) : ∀ o' ∈ some o, o'.Unanimous := by
    rintro o' ⟨⟩
    exact each
  constructor
  · intro opens
    cases opens with
    | signed received checked decoded inside =>
        exact ⟨.signed received checked decoded inside, by rintro o ⟨⟩⟩
    | auth received algorithm opened inside =>
        obtain ⟨opened, each⟩ := Agent.openAuth_all_iff.mp opened
        exact ⟨.auth received algorithm opened inside, unanimous each⟩
    | anon received algorithm opened inside stays =>
        obtain ⟨opened, each⟩ := Agent.openAnon_all_iff.mp opened
        exact ⟨.anon received algorithm opened inside stays, unanimous each⟩
    | forward received algorithm opened inside asked toUs =>
        obtain ⟨opened, each⟩ := Agent.openAnon_all_iff.mp opened
        exact ⟨.forward received algorithm opened inside asked toUs, unanimous each⟩
  · rintro ⟨opens, each⟩
    cases opens with
    | signed received checked decoded inside => exact .signed received checked decoded inside
    | auth received algorithm opened inside =>
        exact .auth received algorithm (Agent.openAuth_all_iff.mpr ⟨opened, each _ rfl⟩) inside
    | anon received algorithm opened inside stays =>
        exact .anon received algorithm (Agent.openAnon_all_iff.mpr ⟨opened, each _ rfl⟩) inside
          stays
    | forward received algorithm opened inside asked toUs =>
        exact .forward received algorithm (Agent.openAnon_all_iff.mpr ⟨opened, each _ rfl⟩) inside
          asked toUs

namespace Agent

theorem unwrap_all_iff :
    a.unwrap ⟨true, unwrapForward⟩ text = .ok w ↔
      a.unwrap ⟨false, unwrapForward⟩ text = .ok w ∧ ∀ layer ∈ w.layers, layer.Unanimous := by
  constructor
  · intro unwrapped
    constructor
    · apply unwrap_of_opens unwrapped
      intro layer _ outside inside opens
      exact (opens_all_iff.mp opens).1
    · intro layer member
      obtain ⟨s, value, layers, nested, -⟩ := unwrap_sound unwrapped
      obtain ⟨outside, inside, opens⟩ := nested.opens_of_mem (layers ▸ member)
      exact (opens_all_iff.mp opens).2
  · intro ⟨unwrapped, each⟩
    apply unwrap_of_opens unwrapped
    intro layer member outside inside opens
    exact opens_all_iff.mpr ⟨opens, each layer member⟩

/-- With all keys asked for the answer is the same as without, and there is one just when every key
that was tried decrypts its envelope: for unpacking each envelope down to the message, and for
taking a forward message apart the outer one. -/
theorem unpack_all_iff (a : Agent) (unwrapForward : Bool) (text : String) :
    (∀ u, a.unpack text ⟨true, unwrapForward⟩ = .ok u ↔
      a.unpack text ⟨false, unwrapForward⟩ = .ok u ∧
        ∃ w, a.unwrap ⟨false, unwrapForward⟩ text = .ok w ∧
          ∀ layer ∈ w.layers, layer.Unanimous) ∧
    ∀ f, a.unpackForward text ⟨true, unwrapForward⟩ = .ok f ↔
      a.unpackForward text ⟨false, unwrapForward⟩ = .ok f ∧
        ∃ algorithm o inner, Anonymous a false text algorithm o inner ∧ o.Unanimous := by
  constructor
  · intro u
    rw [unpack_eq_ok_iff, unpack_eq_ok_iff]
    constructor
    · intro ⟨w, unwrapped, settled, encryptedBy, signedBy⟩
      have ⟨loose, each⟩ := unwrap_all_iff.mp unwrapped
      exact ⟨⟨w, loose, settled, encryptedBy, signedBy⟩, w, loose, each⟩
    · intro ⟨⟨w, loose, settled, encryptedBy, signedBy⟩, w', loose', each⟩
      have same : w' = w := Except.ok.inj (loose'.symm.trans loose)
      exact ⟨w, unwrap_all_iff.mpr ⟨loose, same ▸ each⟩, settled, encryptedBy, signedBy⟩
  · intro f
    rw [unpackForward_eq_ok_iff, unpackForward_eq_ok_iff]
    constructor
    · intro ⟨algorithm, o, inner, value, m, proof, forward, anonymous, content⟩
      have ⟨loose, each⟩ := anonymous_all_iff.mp anonymous
      exact ⟨⟨algorithm, o, inner, value, m, proof, forward, loose, content⟩,
        algorithm, o, inner, loose, each⟩
    · intro ⟨⟨algorithm, o, inner, value, m, proof, forward, loose, content⟩,
        algorithm', o', inner', loose', each⟩
      have same : o' = o := (loose'.unique loose).2
      exact ⟨algorithm, o, inner, value, m, proof, forward,
        anonymous_all_iff.mpr ⟨loose, same ▸ each⟩, content⟩

end Agent

end DidMessaging
