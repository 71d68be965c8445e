import DidMessaging.Message.Attachment
import DidMessaging.Proofs.Json.Canonical

namespace DidMessaging.Attachment

open Json Json.Fields

namespace Content

def jws : Content → Option Json
  | .links _ _ jws => jws
  | .base64 _ _ jws => jws
  | Content.value _ _ jws => jws

/-- The values that the content holds are canonical. -/
def Canonical : Content → Prop
  | .links _ _ jws | .base64 _ _ jws => ∀ j ∈ jws, j.Canonical
  | Content.value j _ jws => j.Canonical ∧ ∀ j ∈ jws, j.Canonical

theorem optional?_jws {fields : Fields} {found : String → Option Json} {jws : Option Json}
    (written : Written names found fields) (listed : "jws" ∈ names)
    (here : found "jws" = jws.map sorted)
    (canonical : ∀ j ∈ jws, j.Canonical) (notNull : jws ≠ some .null) :
    fields.optional? "jws" (·.json?) = some jws := by
  refine written.optional? listed here (fun j member => ?_) (fun j member => ?_)
  · rw [sorted_of_canonical (canonical j member)]
    exact Tree.json?_ofJson_of_canonical (canonical j member)
  · rw [sorted_of_canonical (canonical j member)]
    rintro rfl
    exact notNull member

theorem readLinks?_json {links : List String} {hash : String} {jws : Option Json}
    (canonical : ∀ j ∈ jws, j.Canonical) (notNull : jws ≠ some .null) :
    readLinks? (.ofJson (json (.links links hash jws)).sorted) =
      some (.links links hash jws) := by
  obtain ⟨fields, read, written⟩ := read?_sorted ["links", "hash", "jws"] 3
    ([("links", .strings links), ("hash", .string hash)] ++ Json.optional "jws" (fun j => j) jws)
    (by cases jws <;> simp)
  have readLinks : fields.required? "links" (·.strings?) = some links :=
    written.required? (by simp) (by simp) (Tree.strings?_ofJson links)
  have readHash : fields.required? "hash" (·.string?) = some hash :=
    written.required?_string (by simp) (by simp)
  have readJws : fields.optional? "jws" (·.json?) = some jws :=
    optional?_jws written (by simp) (by simp) canonical notNull
  simp only [readLinks?, json, read, readLinks, readHash, readJws, Option.bind_eq_bind,
    Option.bind_some, Option.pure_def]

theorem readBase64?_json {text : String} {hash : Option String} {jws : Option Json}
    (canonical : ∀ j ∈ jws, j.Canonical) (notNull : jws ≠ some .null) :
    readBase64? (.ofJson (json (.base64 text hash jws)).sorted) =
      some (.base64 text hash jws) := by
  obtain ⟨fields, read, written⟩ := read?_sorted ["base64", "hash", "jws"] 3
    ([("base64", .string text)] ++ Json.optional "hash" .string hash
      ++ Json.optional "jws" (fun j => j) jws) (by cases hash <;> cases jws <;> simp)
  have readText : fields.required? "base64" (·.string?) = some text :=
    written.required?_string (by simp) (by simp)
  have readHash : fields.optional? "hash" (·.string?) = some hash :=
    written.optional?_string (by simp) (by simp [List.lookup_append, Function.comp_def])
  have readJws : fields.optional? "jws" (·.json?) = some jws :=
    optional?_jws written (by simp) (by simp [List.lookup_append]) canonical notNull
  simp only [readBase64?, json, read, readText, readHash, readJws, Option.bind_eq_bind,
    Option.bind_some, Option.pure_def]

theorem readJson?_json {value : Json} {hash : Option String} {jws : Option Json}
    (canonicalValue : value.Canonical) (canonical : ∀ j ∈ jws, j.Canonical)
    (notNull : jws ≠ some .null) :
    readJson? (.ofJson (json (.value value hash jws)).sorted) =
      some (.value value hash jws) := by
  obtain ⟨fields, read, written⟩ := read?_sorted ["json", "hash", "jws"] 3
    ([("json", value)] ++ Json.optional "hash" .string hash
      ++ Json.optional "jws" (fun j => j) jws) (by cases hash <;> cases jws <;> simp)
  have readValue : fields.required? "json" (·.json?) = some value :=
    written.required? (by simp) (by simp [sorted_of_canonical canonicalValue])
      (Tree.json?_ofJson_of_canonical canonicalValue)
  have readHash : fields.optional? "hash" (·.string?) = some hash :=
    written.optional?_string (by simp) (by simp [List.lookup_append, Function.comp_def])
  have readJws : fields.optional? "jws" (·.json?) = some jws :=
    optional?_jws written (by simp) (by simp [List.lookup_append]) canonical notNull
  simp only [readJson?, json, read, readValue, readHash, readJws, Option.bind_eq_bind,
    Option.bind_some, Option.pure_def]

/-! The kinds are told apart by the first field of each. -/

theorem readLinks?_eq_none {members : Members} (nodup : (Members.names members).Nodup)
    (missing : members.lookup "links" = none) :
    readLinks? (.ofJson (sorted (.object members))) = none := by
  obtain ⟨fields, read, written⟩ := read?_sorted ["links", "hash", "jws"] 3 _ nodup
  have readLinks : fields.required? "links" (·.strings?) = none :=
    written.required?_eq_none (by simp) (by simp [missing])
  simp only [readLinks?, read, readLinks, Option.bind_eq_bind, Option.bind_some, Option.bind_none]

theorem readBase64?_eq_none {members : Members} (nodup : (Members.names members).Nodup)
    (missing : members.lookup "base64" = none) :
    readBase64? (.ofJson (sorted (.object members))) = none := by
  obtain ⟨fields, read, written⟩ := read?_sorted ["base64", "hash", "jws"] 3 _ nodup
  have readText : fields.required? "base64" (·.string?) = none :=
    written.required?_eq_none (by simp) (by simp [missing])
  simp only [readBase64?, read, readText, Option.bind_eq_bind, Option.bind_some, Option.bind_none]

theorem json?_json_isSome (c : Content) : (Tree.ofJson c.json.sorted).json?.isSome := by
  rw [Tree.json?_ofJson]
  rfl

theorem read?_json (c : Content) (canonical : c.Canonical) (notNull : c.jws ≠ some .null) :
    read? (.ofJson c.json.sorted) = some c := by
  rw [read?, c.json?_json_isSome]
  cases c with
  | links links hash jws =>
      rw [readLinks?_json canonical notNull]
      rfl
  | base64 text hash jws =>
      have noLinks : readLinks? (.ofJson (json (.base64 text hash jws)).sorted) = none :=
        readLinks?_eq_none (by cases hash <;> cases jws <;> simp) (by simp [List.lookup_append])
      rw [noLinks, readBase64?_json canonical notNull]
      rfl
  | value j hash jws =>
      have nodup : (Members.names ([("json", j)] ++ Json.optional "hash" .string hash
          ++ Json.optional "jws" (fun j => j) jws)).Nodup := by
        cases hash <;> cases jws <;> simp
      have noLinks : readLinks? (.ofJson (json (.value j hash jws)).sorted) = none :=
        readLinks?_eq_none nodup (by simp [List.lookup_append])
      have noBase64 : readBase64? (.ofJson (json (.value j hash jws)).sorted) = none :=
        readBase64?_eq_none nodup (by simp [List.lookup_append])
      rw [noLinks, noBase64, readJson?_json canonical.1 canonical.2 notNull]
      rfl

end Content

/-- The members that an attachment is written with. -/
def members (a : Attachment) : Members :=
  Json.optional "id" .string a.id ++ [("data", a.content.json)]
    ++ Json.optional "description" .string a.description
    ++ Json.optional "filename" .string a.filename
    ++ Json.optional "media_type" .string a.mediaType
    ++ Json.optional "format" .string a.format
    ++ Json.optional "lastmod_time" (fun n => .number (.nat n)) a.lastmodTime
    ++ Json.optional "byte_count" (fun n => .number (.nat n)) a.byteCount

theorem json_eq_object (a : Attachment) : a.json = .object a.members := rfl

theorem names_members_sublist (a : Attachment) : (Members.names a.members).Sublist fieldNames := by
  have upToData := (names_optional_sublist "id" .string a.id).append (.refl ["data"])
  have upToFormat := ((((upToData
    ).append (names_optional_sublist "description" .string a.description)
    ).append (names_optional_sublist "filename" .string a.filename)
    ).append (names_optional_sublist "media_type" .string a.mediaType)
    ).append (names_optional_sublist "format" .string a.format)
  have upToByteCount := (upToFormat
    ).append (names_optional_sublist "lastmod_time" (fun n => .number (.nat n)) a.lastmodTime
    ) |>.append (names_optional_sublist "byte_count" (fun n => .number (.nat n)) a.byteCount)
  simp only [members, Members.names_append]
  exact upToByteCount

theorem read?_json (a : Attachment) (canonical : a.content.Canonical)
    (notNull : a.content.jws ≠ some .null) : read? (.ofJson a.json.sorted) = some a := by
  have nodup : (Members.names a.members).Nodup := a.names_members_sublist.nodup (by decide)
  obtain ⟨fields, read, written⟩ := read?_sorted fieldNames 8 _ nodup
  have content : fields.required? "data" Content.read? = some a.content :=
    written.required? (by simp [fieldNames]) (by simp [members, List.lookup_append])
      (a.content.read?_json canonical notNull)
  have id : fields.optional? "id" (·.string?) = some a.id :=
    written.optional?_string (by simp [fieldNames])
      (by simp [members, List.lookup_append, Function.comp_def])
  have description : fields.optional? "description" (·.string?) = some a.description :=
    written.optional?_string (by simp [fieldNames])
      (by simp [members, List.lookup_append, Function.comp_def])
  have filename : fields.optional? "filename" (·.string?) = some a.filename :=
    written.optional?_string (by simp [fieldNames])
      (by simp [members, List.lookup_append, Function.comp_def])
  have mediaType : fields.optional? "media_type" (·.string?) = some a.mediaType :=
    written.optional?_string (by simp [fieldNames])
      (by simp [members, List.lookup_append, Function.comp_def])
  have format : fields.optional? "format" (·.string?) = some a.format :=
    written.optional?_string (by simp [fieldNames])
      (by simp [members, List.lookup_append, Function.comp_def])
  have lastmodTime : fields.optional? "lastmod_time" (·.nat?) = some a.lastmodTime :=
    written.optional?_nat (by simp [fieldNames])
      (by simp [members, List.lookup_append, Function.comp_def])
  have byteCount : fields.optional? "byte_count" (·.nat?) = some a.byteCount :=
    written.optional?_nat (by simp [fieldNames])
      (by simp [members, List.lookup_append, Function.comp_def])
  simp only [read?, json_eq_object, read, content, id, description, filename, mediaType, format,
    lastmodTime, byteCount, Option.bind_eq_bind, Option.bind_some, Option.pure_def]

end DidMessaging.Attachment
