import Ensemble.Organization.Document
import Ensemble.Session.Document

/-!
# Saved states

What is saved of an ensemble: its organization and its sessions.  Every field of the document has a
default, so that older documents can be read.
-/

namespace Ensemble

/-- An organization and sessions as they are saved. -/
structure SavedState where
  version : Nat
  organization : Organization
  sessions : List Session
  savedAt : Timestamp
  deriving DecidableEq, Repr

namespace SavedState

/-- The version of documents that are written anew. -/
def currentVersion : Nat := 1

/-- A state to save. -/
def create (organization : Organization) (sessions : List Session) (now : Timestamp) :
    SavedState :=
  ⟨currentVersion, organization, sessions, now⟩

/-- The state without groups and sessions. -/
def empty (now : Timestamp) : SavedState :=
  create .empty [] now

/-- The names of the fields of a state. -/
def fieldNames : List String := ["version", "organization", "sessions", "saved_at"]

/-- Reads a state; `fresh` supplies the identifiers that cycles lack. -/
def ofJson? (fresh : Nat → Id) (now : Timestamp) (value : Json) : Option SavedState := do
  match ← value.fields? fieldNames with
  | [version, organization, sessions, savedAt] =>
    return {
      version := ← Json.orDefault? (Json.natural? maxWord32) currentVersion version
      organization := ← Json.orDefault? (Organization.ofJson? fresh now) .empty organization
      sessions := ← Json.orDefault? (Json.list? Session.ofJson?) [] sessions
      savedAt := ← Json.orDefault? Timestamp.ofJson? now savedAt }
  | _ => none

/-- The document of a state. -/
def toJson (s : SavedState) : Json :=
  .record [
    ("version", .nat s.version),
    ("organization", s.organization.toJson),
    ("sessions", .array (s.sessions.map Session.toJson)),
    ("saved_at", s.savedAt.toJson)]

/-- Reads a state from the text of its document. -/
def read (fresh : Nat → Id) (now : Timestamp) (text : String) : Attempt SavedState :=
  match (Json.read? text).bind (ofJson? fresh now) with
  | some state => .ok state
  | none => .error .jsonDocument

/-- The text of the document of a state. -/
def write (s : SavedState) : String :=
  s.toJson.write

end SavedState

end Ensemble
