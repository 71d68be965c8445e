import DidMessaging.Proofs.Envelope.Encryption
import DidMessaging.Proofs.Key.Pair

namespace DidMessaging

open Result

namespace Key

/-- The private half of a published key; with each of the partners it comes to the secret that the
partner comes to. -/
structure Paired (partner : Key → Prop) (published secret : Key) : Prop where
  id : secret.id = published.id
  same : published.SamePoint secret
  commutes : ∀ k, partner k → k.Commutes secret

end Key

namespace Jwe

variable {payload : Bytes} {alg : String} {enc : ContentAlgorithm} {sender : Option Key}
  {recipients : List Key} {j : Jwe}

/-- The keys that a recipient's is brought together with: the one that the stream gives, and the
sender's. -/
def Partner (e : Entropy) (sender : Option Key) (k : Key) : Prop :=
  (∃ curve between, Key.ephemeral curve e = .ok (k, between)) ∨ k ∈ sender

/-- A received envelope that names its recipients, in order, and its sender as they are, and is
committed to them. -/
structure Received.Names (r : Received) (sender : Option Key) (recipients : List Key) : Prop where
  kids : r.kids = recipients.map (·.id)
  committed : r.checkRecipients = .ok ()
  authentic : ∀ key ∈ sender,
    r.header.skid = some key.id ∧ r.sender = .ok key.id ∧ r.withSender = .ok r
  anonymous : sender = none → r.header.skid = none ∧ r.header.apu = none

namespace Received

variable {f : Fresh} {content tag : Bytes}

theorem names_receive (assembled : Assembled f payload alg enc sender recipients content tag j) :
    (j.receive f alg enc sender recipients).Names sender recipients where
  kids := kids_receive assembled
  committed := checkRecipients_receive assembled
  authentic := by
    rintro key ⟨⟩
    exact ⟨rfl, sender_receive, withSender_receive⟩
  anonymous := by
    rintro rfl
    exact ⟨rfl, rfl⟩

/-- The entry of a recipient was made for it and for no other one of the same id. -/
theorem decrypt_receive_of_mem
    (assembled : Assembled f payload alg enc sender recipients content tag j)
    (drawn : Key.ephemeral curve e = .ok (f.ephemeral, between))
    (distinct : (recipients.map (·.id)).Nodup) {key secret : Key} (listed : key ∈ recipients)
    (paired : key.Paired (Partner e sender) secret) {known : Option Key}
    (sided : Option.Rel Key.SamePoint sender known) :
    (j.receive f alg enc sender recipients).decrypt known secret = .ok payload := by
  obtain ⟨-, -, jwk, made⟩ := Key.ephemeral_sound drawn
  apply decrypt_receive assembled made sided
  · rw [paired.id]
    exact List.mem_map_of_mem listed
  · intro other otherListed id
    have same : other = key :=
      List.inj_on_of_nodup_map distinct otherListed listed (id.trans paired.id)
    exact same ▸ paired.same
  · intro k member
    apply paired.commutes
    cases List.mem_cons.mp member with
    | inl isDrawn => exact .inl ⟨curve, between, isDrawn ▸ drawn⟩
    | inr isSender => exact .inr (Option.mem_toList.mp isSender)

end Received

/-! Two keys of one recipient. -/

def firstKey : Key := .uniform "did:example:bob#1" 3

def secondKey : Key := .uniform "did:example:bob#2" 5

def senderKey : Key := .uniform "did:example:alice#1" 1

def fours : Entropy := .ofStream fun _ => 4

theorem sized_senderKey : Sized AuthAlgorithm.agreement (some senderKey) :=
  sized_auth senderKey (by decide)

theorem exists_sharedBySender_two {key : Key}
    (listed : key ∈ [firstKey.toPublic, secondKey.toPublic]) (own : ∀ k ∈ sender, k = senderKey) :
    ∃ z, sharedBySender (.uniform "" 4) sender key = .ok z := by
  have agrees : (∃ z, (Key.uniform "" 4).agree key = .ok z) ∧
      ∃ z, senderKey.agree key = .ok z := by
    rcases List.mem_pair.mp listed with rfl | rfl
    · exact ⟨Key.exists_agree_uniform _ _ (by decide +kernel),
        Key.exists_agree_uniform _ _ (by decide +kernel)⟩
    · exact ⟨Key.exists_agree_uniform _ _ (by decide +kernel),
        Key.exists_agree_uniform _ _ (by decide +kernel)⟩
  obtain ⟨⟨z, ephemeral⟩, z', static⟩ := agrees
  cases sender with
  | none => exact ⟨z, bind_eq_ok_iff.mpr ⟨z, ephemeral, rfl⟩⟩
  | some sender =>
      obtain rfl := own sender rfl
      exact ⟨z ++ z', bind_eq_ok_iff.mpr ⟨z, ephemeral, bind_eq_ok_iff.mpr ⟨z', static, rfl⟩⟩⟩

theorem exists_encrypt_two (payload : Bytes) (enc : ContentAlgorithm) (sized : Sized alg sender)
    (own : ∀ key ∈ sender, key = senderKey) :
    ∃ j e', encrypt payload alg enc sender [firstKey.toPublic, secondKey.toPublic] fours =
      .ok (j, e') := by
  apply encrypt_complete payload enc sized (List.cons_ne_nil _ _) ?_ (Key.ephemeral_uniform 4)
  · intro key listed
    exact exists_sharedBySender_two listed own
  · intro key member
    cases List.mem_append.mp member with
    | inl listed => rcases List.mem_pair.mp listed with rfl | rfl <;> rfl
    | inr isSender =>
        rw [own key (Option.mem_toList.mp isSender)]
        rfl

theorem paired_two (own : ∀ key ∈ sender, key = senderKey) {secret : Key}
    (listed : secret ∈ [firstKey, secondKey]) :
    secret.toPublic.Paired (Partner fours sender) secret where
  id := rfl
  same := Key.samePoint_of_jwk rfl rfl rfl
  commutes := by
    rintro k (⟨curve, between, drawn⟩ | isSender)
    · obtain ⟨-, onCurve, -⟩ := Key.ephemeral_sound drawn
      by_cases other : curve = .x25519
      · rw [other, fours, Key.ephemeral_uniform] at drawn
        obtain ⟨rfl, -⟩ := Prod.mk.inj (Except.ok.inj drawn)
        rcases List.mem_pair.mp listed with rfl | rfl <;>
          exact Key.commutes_uniform _ _ (by decide +kernel)
      · intro z agrees
        have curves := onCurve.symm.trans (Key.curve_of_agree agrees)
        rcases List.mem_pair.mp listed with rfl | rfl <;> exact absurd curves other
    · rw [own k isSender]
      rcases List.mem_pair.mp listed with rfl | rfl <;>
        exact Key.commutes_uniform _ _ (by decide +kernel)

/-- An envelope for the two keys, as it is received. -/
theorem exists_received_two (payload : Bytes) (enc : ContentAlgorithm) (sized : Sized alg sender)
    (own : ∀ key ∈ sender, key = senderKey) {known : Option Key}
    (sided : Option.Rel Key.SamePoint sender known) :
    ∃ (j : Jwe) (r : Received), parse j.text = .ok r ∧ r.header.alg = alg ∧
      r.header.enc = enc.name ∧ r.Names sender [firstKey.toPublic, secondKey.toPublic] ∧
      ∀ secret ∈ [firstKey, secondKey], r.decrypt known secret = .ok payload := by
  obtain ⟨j, e', encrypts⟩ := exists_encrypt_two payload enc sized own
  obtain ⟨-, some_, curve, f, content, tag, between, -, drawn, assembled⟩ := encrypt_sound encrypts
  refine ⟨j, j.receive f alg enc sender [firstKey.toPublic, secondKey.toPublic],
    parse_text assembled some_, rfl, rfl, Received.names_receive assembled, ?_⟩
  intro secret listed
  have published : secret.toPublic ∈ [firstKey.toPublic, secondKey.toPublic] :=
    List.mem_map_of_mem listed
  exact Received.decrypt_receive_of_mem assembled drawn (by decide) published
    (paired_two own listed) sided

/-- What is encrypted for several recipients with ids of their own is received as an envelope that
names them, and each of them decrypts it to the payload. -/
theorem encrypt_decrypt
    (encrypts : encrypt payload alg enc sender recipients e = .ok (j, e'))
    (distinct : (recipients.map (·.id)).Nodup) :
    ∃ r, parse j.text = .ok r ∧ r.Names sender recipients ∧
      ∀ key ∈ recipients, ∀ secret, key.Paired (Partner e sender) secret →
        ∀ known, Option.Rel Key.SamePoint sender known → r.decrypt known secret = .ok payload := by
  obtain ⟨-, some_, curve, f, content, tag, between, -, drawn, assembled⟩ := encrypt_sound encrypts
  refine ⟨j.receive f alg enc sender recipients, parse_text assembled some_,
    Received.names_receive assembled, ?_⟩
  intro key listed secret paired known sided
  exact Received.decrypt_receive_of_mem assembled drawn distinct listed paired sided

/-- Both keys decrypt what a sender encrypts for the two. -/
theorem encrypt_decrypt_two :
    ∃ j e' r,
      encrypt [104, 105] AuthAlgorithm.agreement AuthAlgorithm.usual.content (some senderKey)
        [firstKey.toPublic, secondKey.toPublic] fours = .ok (j, e') ∧
      parse j.text = .ok r ∧
      r.Names (some senderKey) [firstKey.toPublic, secondKey.toPublic] ∧
      r.decrypt (some senderKey.toPublic) firstKey = .ok [104, 105] ∧
      r.decrypt (some senderKey.toPublic) secondKey = .ok [104, 105] := by
  have own : ∀ key ∈ some senderKey, key = senderKey := by simp
  have sided : Option.Rel Key.SamePoint (some senderKey) (some senderKey.toPublic) :=
    .some (Key.samePoint_of_jwk rfl rfl rfl)
  obtain ⟨j, e', encrypts⟩ := exists_encrypt_two [104, 105] AuthAlgorithm.usual.content
    sized_senderKey own
  obtain ⟨r, received, names, each⟩ := encrypt_decrypt encrypts (by decide)
  refine ⟨j, e', r, encrypts, received, names, ?_, ?_⟩
  · exact each firstKey.toPublic (by simp) firstKey (paired_two own (by simp)) _ sided
  · exact each secondKey.toPublic (by simp) secondKey (paired_two own (by simp)) _ sided

end Jwe

end DidMessaging
