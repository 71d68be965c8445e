namespace DidMessaging

inductive MediaType
  | plain
  | signed
  | encrypted
deriving DecidableEq, Repr

namespace MediaType

def name : MediaType → String
  | .plain => "application/didcomm-plain+json"
  | .signed => "application/didcomm-signed+json"
  | .encrypted => "application/didcomm-encrypted+json"

def named? : String → Option MediaType
  | "application/didcomm-plain+json" => some .plain
  | "application/didcomm-signed+json" => some .signed
  | "application/didcomm-encrypted+json" => some .encrypted
  | _ => none

theorem named?_eq_some_iff {s : String} {t : MediaType} : named? s = some t ↔ s = t.name := by
  constructor
  · intro h
    unfold named? at h
    split at h <;> simp_all [name] <;> subst h <;> rfl
  · rintro rfl
    cases t <;> rfl

end MediaType

end DidMessaging
