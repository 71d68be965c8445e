import DidMessaging.Json.Record

namespace DidMessaging

inductive Attachment.Content
  | links (links : List String) (hash : String) (jws : Option Json)
  | base64 (text : String) (hash : Option String) (jws : Option Json)
  | value (value : Json) (hash : Option String) (jws : Option Json)
deriving Repr

structure Attachment where
  content : Attachment.Content
  id : Option String := none
  description : Option String := none
  filename : Option String := none
  mediaType : Option String := none
  format : Option String := none
  lastmodTime : Option UInt64 := none
  byteCount : Option UInt64 := none
deriving Repr

namespace Attachment

namespace Content

def readLinks? (t : Json.Tree) : Option Content := do
  let fields ← Json.Fields.read? ["links", "hash", "jws"] 3 t
  let links ← fields.required? "links" (·.strings?)
  let hash ← fields.required? "hash" (·.string?)
  let jws ← fields.optional? "jws" (·.json?)
  return .links links hash jws

def readBase64? (t : Json.Tree) : Option Content := do
  let fields ← Json.Fields.read? ["base64", "hash", "jws"] 3 t
  let text ← fields.required? "base64" (·.string?)
  let hash ← fields.optional? "hash" (·.string?)
  let jws ← fields.optional? "jws" (·.json?)
  return .base64 text hash jws

def readJson? (t : Json.Tree) : Option Content := do
  let fields ← Json.Fields.read? ["json", "hash", "jws"] 3 t
  let value ← fields.required? "json" (·.json?)
  let hash ← fields.optional? "hash" (·.string?)
  let jws ← fields.optional? "jws" (·.json?)
  return .value value hash jws

/-- The first kind of content whose fields are all there. -/
def read? (t : Json.Tree) : Option Content := do
  guard t.json?.isSome
  ((readLinks? t).or (readBase64? t)).or (readJson? t)

def json : Content → Json
  | .links urls hash jws =>
    .object ([("links", .strings urls), ("hash", .string hash)]
      ++ Json.optional "jws" (fun j => j) jws)
  | .base64 text hash jws =>
    .object ([("base64", .string text)] ++ Json.optional "hash" .string hash
      ++ Json.optional "jws" (fun j => j) jws)
  | .value j hash jws =>
    .object ([("json", j)] ++ Json.optional "hash" .string hash
      ++ Json.optional "jws" (fun j => j) jws)

end Content

def ofJson (value : Json) : Attachment := { content := .value value none none }

def fieldNames : List String :=
  ["id", "data", "description", "filename", "media_type", "format", "lastmod_time", "byte_count"]

def read? (t : Json.Tree) : Option Attachment := do
  let fields ← Json.Fields.read? fieldNames 8 t
  let id ← fields.optional? "id" (·.string?)
  let content ← fields.required? "data" Content.read?
  let description ← fields.optional? "description" (·.string?)
  let filename ← fields.optional? "filename" (·.string?)
  let mediaType ← fields.optional? "media_type" (·.string?)
  let format ← fields.optional? "format" (·.string?)
  let lastmodTime ← fields.optional? "lastmod_time" (·.nat?)
  let byteCount ← fields.optional? "byte_count" (·.nat?)
  return { content, id, description, filename, mediaType, format, lastmodTime, byteCount }

def json (a : Attachment) : Json :=
  .object (Json.optional "id" .string a.id ++ [("data", a.content.json)]
    ++ Json.optional "description" .string a.description
    ++ Json.optional "filename" .string a.filename
    ++ Json.optional "media_type" .string a.mediaType
    ++ Json.optional "format" .string a.format
    ++ Json.optional "lastmod_time" (fun n => .number (.nat n)) a.lastmodTime
    ++ Json.optional "byte_count" (fun n => .number (.nat n)) a.byteCount)

end Attachment

end DidMessaging
