import DidMessaging.Key.Material
import DidMessaging.Proofs.Json.Record
import DidMessaging.Proofs.Key.Recoding

namespace DidMessaging

open Json

/-- A JSON Web Key with a private part: a member of an object, or the last of the fields in an
array. -/
inductive Jwk.Discloses : Json → Prop
  | member {members : Members} {text : String} (here : ("d", .string text) ∈ members) :
      Discloses (.object members)
  | last (first second third fourth : Json) (text : String) :
      Discloses (.array [first, second, third, fourth, .string text])

/-- What a verification method discloses is in its JSON Web Key; octets alone disclose nothing. -/
def VerificationMethod.Discloses (m : VerificationMethod) : Prop :=
  ∃ value, m.material = .jwk value ∧ Jwk.Discloses value

namespace Jwk

theorem d_of_read? (read : read? t = some jwk) :
    ∃ fields, Fields.read? fieldNames 5 t = some fields ∧
      fields.optional? "d" (·.string?) = some jwk.d := by
  simp only [read?, Option.bind_eq_bind, Option.bind_eq_some_iff, Option.pure_def,
    Option.some.injEq] at read
  obtain ⟨fields, found, kty, -, crv, -, x, -, y, -, d, given, rfl⟩ := read
  exact ⟨fields, found, given⟩

theorem isSome_d_iff_discloses {value : Json} (read : read? (.ofJson value) = some jwk) :
    jwk.d.isSome = true ↔ Discloses value := by
  obtain ⟨fields, found, given⟩ := d_of_read? read
  have held (s : String) : jwk.d = some s ↔ fields.lookup "d" = some (.string s) := by
    rw [← Fields.optional?_string_eq_some_iff, given, Option.some.injEq]
  rw [Option.isSome_iff_exists]
  simp only [held]
  cases value with
  | null => contradiction
  | bool b => contradiction
  | number n => contradiction
  | string s => contradiction
  | array items =>
      simp only [Tree.ofJson, Fields.read?, Option.ite_none_right_eq_some, Option.some.injEq]
        at found
      obtain ⟨⟨least, most⟩, rfl⟩ := found
      rw [Tree.ofItems_eq_map, List.length_map] at least most
      match items, least, most with
      | [first, second, third, fourth, last], _, _ =>
          have here : (fieldNames.zip (Tree.ofItems [first, second, third, fourth, last])).lookup
              "d" = some (Tree.ofJson last) := rfl
          simp only [here, Option.some.injEq, Tree.ofJson_eq_string_iff]
          constructor
          · rintro ⟨s, rfl⟩
            exact .last first second third fourth s
          · rintro ⟨⟩
            exact ⟨_, rfl⟩
  | object members =>
      simp only [Fields.lookup_of_read?_object found (show "d" ∈ fieldNames by decide)]
      constructor
      · rintro ⟨s, here⟩
        exact .member here
      · rintro ⟨here⟩
        exact ⟨_, here⟩

end Jwk

/-- A method that carries the octets of a coordinate as text has no place for a private part. -/
theorem VerificationMethod.Carries.not_discloses {m : VerificationMethod}
    (carries : m.Carries curve raw) (textual : m.type ≠ .jsonWebKey2020) : ¬m.Discloses := by
  rintro ⟨value, held, -⟩
  cases carries with
  | jwk => exact textual rfl
  | x25519Base58 | ed25519Base58 | x25519Multibase | ed25519Multibase => contradiction

namespace Key

theorem toPublic_eq_self_iff {k : Key} : k.toPublic = k ↔ k.isPrivate = false := by
  obtain ⟨kid, curve, jwk⟩ := k
  obtain ⟨kty, crv, x, y, d⟩ := jwk
  cases d <;> simp [toPublic, Jwk.toPublic, isPrivate]

/-- A published key is private just if the method that publishes it discloses a private part. -/
theorem isPrivate_iff_discloses {m : VerificationMethod} {k : Key} (made : ofMethod m = .ok k) :
    k.isPrivate = true ↔ m.Discloses := by
  by_cases textual : m.type = .jsonWebKey2020
  · obtain ⟨kid, type, owner, material⟩ := m
    obtain rfl : type = .jsonWebKey2020 := textual
    cases material with
    | base58 text => contradiction
    | multibase text => contradiction
    | jwk value =>
        have ofValue : ofJson kid value = .ok k := made
        unfold ofJson at ofValue
        split at ofValue
        · next jwk read =>
            obtain ⟨curve, -, -, -, rfl⟩ := ofJwk_eq_ok_iff.mp ofValue
            have disclosed := Jwk.isSome_d_iff_discloses read
            constructor
            · intro whole
              exact ⟨value, rfl, disclosed.mp whole⟩
            · rintro ⟨_, ⟨⟩, discloses⟩
              exact disclosed.mpr discloses
        · contradiction
  · obtain ⟨raw, -, carries, same⟩ := carries_of_ofMethod made textual
    rw [same]
    constructor
    · intro whole
      contradiction
    · intro discloses
      exact absurd discloses (carries.not_discloses textual)

end Key

end DidMessaging
