import DidMessaging.Did.Document

namespace DidMessaging

structure Directory where
  documents : List Document
  /-- DIDs on which resolution fails. -/
  unreachable : List String
deriving Repr

namespace Directory

def ofDocuments (documents : List Document) : Directory := ⟨documents, []⟩

def resolve (d : Directory) (did : String) : Result (Option Document) :=
  if d.unreachable.contains did then .error (.unsupported (.resolving did))
  else .ok (d.documents.find? (·.id = did))

def document (d : Directory) (did : String) : Result Document := do
  match ← d.resolve did with
  | some doc => return doc
  | none => throw (.didNotResolved did)

end Directory

structure Keyring where
  secrets : List Secret
  /-- Ids that are reported as held although there is no secret to hand out. -/
  announced : List String
deriving Repr

namespace Keyring

def ofSecrets (secrets : List Secret) : Keyring := ⟨secrets, []⟩

def empty : Keyring := ofSecrets []

def secret? (k : Keyring) (id : String) : Option Secret :=
  k.secrets.find? (·.id = id)

def holds (k : Keyring) (id : String) : Bool :=
  k.secrets.any (·.id = id) || k.announced.contains id

def held (k : Keyring) (ids : List String) : List String :=
  ids.filter k.holds

def key (k : Keyring) (id : String) : Result Key :=
  match k.secret? id with
  | some s => Key.ofSecret s
  | none => .error (.secretNotFound (.named id))

end Keyring

structure Agent where
  directory : Directory
  keyring : Keyring
deriving Repr

def Agent.using (a : Agent) (directory : Option Directory) (keyring : Option Keyring) : Agent :=
  ⟨directory.getD a.directory, keyring.getD a.keyring⟩

end DidMessaging
