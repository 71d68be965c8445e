import DidMessaging.Key.Derivation
import DidMessaging.Proofs.Bytes
import DidMessaging.Proofs.Result
import DidMessaging.Proofs.Text.Utf8

namespace DidMessaging

theorem length_sha256 (message : Bytes) : (sha256 message).length = 32 := by
  simp only [sha256, Sha2.digest, Sha2.State.toList, List.flatMap_cons, List.flatMap_nil,
    List.length_append, Bytes.length_ofNat, List.length_nil]
  rfl

namespace KeyDerivation

open Result

/-! What a key is derived from is hashed as one text, in which each part can be told from the others:
two derivations hash the same text only if they are the same derivation. -/

theorem sized_injective : Function.Injective sized := by
  intro part part' same
  have dropped := congrArg (List.drop 4) same
  rwa [sized, sized, List.drop_left' (Bytes.length_ofNat ..),
    List.drop_left' (Bytes.length_ofNat ..)] at dropped

/-- No two tags are hashed from the same octets. -/
theorem hashInput_tag_injective (secret algorithm : Bytes) (producer consumer : Option Bytes) :
    Function.Injective fun tag => hashInput secret algorithm producer consumer (some tag) := by
  intro tag tag' same
  apply sized_injective
  exact List.append_cancel_left (List.append_cancel_left same)

theorem length_sized_pos (part : Bytes) : 0 < (sized part).length := by
  rw [sized, List.length_append, Bytes.length_ofNat]
  exact Nat.add_pos_left (by decide) _

/-- A part of which the length fits is cut off at its end, whatever it holds and what follows. -/
theorem sized_append_inj {part part' rest rest' : Bytes} (short : part.length < 2 ^ 32)
    (short' : part'.length < 2 ^ 32) (same : sized part ++ rest = sized part' ++ rest') :
    part = part' ∧ rest = rest' := by
  rw [sized, sized, List.append_assoc, List.append_assoc] at same
  obtain ⟨length, octets⟩ := Bytes.ofNat_append_inj short short' same
  exact List.append_inj octets length

/-- No tag at all is told from every tag, the empty one included. -/
theorem sized_tag_injective :
    Function.Injective fun tag : Option Bytes => (tag.map sized).getD [] := by
  intro tag tag' same
  have filled (tag : Bytes) : sized tag ≠ [] := List.ne_nil_of_length_pos (length_sized_pos tag)
  cases tag with
  | none =>
      cases tag' with
      | none => rfl
      | some tag' => exact absurd same.symm (filled tag')
  | some tag =>
      cases tag' with
      | none => exact absurd same (filled tag)
      | some tag' => exact congrArg some (sized_injective same)

/-- Everything that goes into a derived key. -/
structure Arguments where
  secret : Bytes
  algorithm : String
  producer : Option Bytes
  consumer : Option Bytes
  tag : Option Bytes

namespace Arguments

variable {a b : Arguments}

/-- The text that is hashed. -/
def hashed (a : Arguments) : Bytes :=
  hashInput a.secret (Utf8.encode a.algorithm) a.producer a.consumer a.tag

/-- The lengths of the parts that others follow fit into their fields. -/
structure Short (a : Arguments) : Prop where
  algorithm : (Utf8.encode a.algorithm).length < 2 ^ 32
  producer : (a.producer.getD []).length < 2 ^ 32
  consumer : (a.consumer.getD []).length < 2 ^ 32

/-- The lengths of all parts but the secret fit. -/
structure Sized (a : Arguments) : Prop extends a.Short where
  tag : (a.tag.getD []).length < 2 ^ 32

/-- The same in every part. A party of which nothing is known is the party of no octets; no tag is
not the tag of no octets. -/
structure Alike (a b : Arguments) : Prop where
  secret : a.secret = b.secret
  algorithm : a.algorithm = b.algorithm
  producer : a.producer.getD [] = b.producer.getD []
  consumer : a.consumer.getD [] = b.consumer.getD []
  tag : a.tag = b.tag

theorem Alike.hashed_eq (alike : a.Alike b) : a.hashed = b.hashed := by
  rw [hashed, hashInput, context, alike.secret, alike.algorithm, alike.producer, alike.consumer,
    alike.tag]
  rfl

theorem alike_of_hashed_eq (length : a.secret.length = b.secret.length) (short : a.Short)
    (short' : b.Short) (same : a.hashed = b.hashed) : a.Alike b := by
  simp only [hashed, hashInput, context, List.append_assoc] at same
  have rest := List.append_cancel_left same
  obtain ⟨secret, rest⟩ := List.append_inj rest length
  obtain ⟨algorithm, rest⟩ := sized_append_inj short.algorithm short'.algorithm rest
  obtain ⟨producer, rest⟩ := sized_append_inj short.producer short'.producer rest
  obtain ⟨consumer, rest⟩ := sized_append_inj short.consumer short'.consumer rest
  have tag := List.append_cancel_left rest
  exact ⟨secret, Utf8.encode_injective algorithm, producer, consumer, sized_tag_injective tag⟩

/-- From secrets of one length the same text is hashed only if every part is the same, also whether
there is a tag. -/
theorem hashed_eq_iff_alike (length : a.secret.length = b.secret.length) (short : a.Short)
    (short' : b.Short) : a.hashed = b.hashed ↔ a.Alike b := by
  constructor
  · exact alike_of_hashed_eq length short short'
  · exact Alike.hashed_eq

/-- A tag, even one of no octets, separates what is otherwise derived from the same parts. -/
theorem hashed_untagged_ne :
    let untagged : Arguments := ⟨List.replicate 64 5, "ECDH-1PU+A256KW", some [97], none, none⟩
    let tagged : Arguments := { untagged with consumer := some [], tag := some [] }
    untagged.Short ∧ tagged.Short ∧ untagged.hashed ≠ tagged.hashed := by
  intro untagged tagged
  have short : untagged.Short := ⟨by decide, by decide, by decide⟩
  have short' : tagged.Short := ⟨by decide, by decide, by decide⟩
  have unlike : ¬untagged.Alike tagged := fun alike => nomatch alike.tag
  have separated := hashed_eq_iff_alike (a := untagged) (b := tagged) rfl short short'
  exact ⟨short, short', mt separated.mp unlike⟩

end Arguments

/-! The key. -/

theorem checkSize_eq_ok_iff {part : Bytes} : checkSize part = .ok () ↔ part.length < 2 ^ 32 := by
  unfold checkSize
  split <;> simp_all

theorem checkSize_eq_error {part : Bytes} (fails : checkSize part = .error e) :
    e = .crypto .derivationSize := by
  unfold checkSize at fails
  split at fails
  · contradiction
  · exact (Except.error.inj fails).symm

variable {secret key : Bytes} {algorithm : String} {producer consumer tag : Option Bytes}

theorem wrappingKey_eq_ok_iff :
    wrappingKey secret algorithm producer consumer tag = .ok key ↔
      Arguments.Sized ⟨secret, algorithm, producer, consumer, tag⟩ ∧
        derive secret algorithm producer consumer tag = key := by
  simp only [wrappingKey, check_bind_eq_ok_iff, checkSize_eq_ok_iff, pure_eq_ok_iff]
  constructor
  · rintro ⟨algorithm, producer, consumer, tag, derived⟩
    exact ⟨⟨⟨algorithm, producer, consumer⟩, tag⟩, derived⟩
  · rintro ⟨sized, derived⟩
    exact ⟨sized.algorithm, sized.producer, sized.consumer, sized.tag, derived⟩

theorem wrappingKey_eq_error
    (fails : wrappingKey secret algorithm producer consumer tag = .error e) :
    e = .crypto .derivationSize := by
  rcases bind_eq_error_iff.mp fails with long | ⟨_, -, fails⟩
  · exact checkSize_eq_error long
  rcases bind_eq_error_iff.mp fails with long | ⟨_, -, fails⟩
  · exact checkSize_eq_error long
  rcases bind_eq_error_iff.mp fails with long | ⟨_, -, fails⟩
  · exact checkSize_eq_error long
  rcases bind_eq_error_iff.mp fails with long | ⟨_, -, fails⟩
  · exact checkSize_eq_error long
  · contradiction

/-- There is no key just if a part is too long. -/
theorem wrappingKey_eq_error_iff :
    wrappingKey secret algorithm producer consumer tag = .error e ↔
      ¬Arguments.Sized ⟨secret, algorithm, producer, consumer, tag⟩ ∧ e = .crypto .derivationSize := by
  constructor
  · intro fails
    refine ⟨fun sized => ?_, wrappingKey_eq_error fails⟩
    have found := wrappingKey_eq_ok_iff.mpr ⟨sized, rfl⟩
    exact nomatch fails.symm.trans found
  · rintro ⟨long, rfl⟩
    cases found : wrappingKey secret algorithm producer consumer tag with
    | error e => rw [wrappingKey_eq_error found]
    | ok key => exact absurd (wrappingKey_eq_ok_iff.mp found).1 long

theorem length_wrappingKey
    (derived : wrappingKey secret algorithm producer consumer tag = .ok key) :
    key.length = 32 := by
  obtain ⟨-, rfl⟩ := wrappingKey_eq_ok_iff.mp derived
  exact length_sha256 _

end KeyDerivation

end DidMessaging
