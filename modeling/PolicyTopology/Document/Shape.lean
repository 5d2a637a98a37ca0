import PolicyTopology.Document.Literal

/-!
# Reading documents of unknown shape

A manifest promises nothing about its shape. Each reader here says which shapes it accepts and, for
the others, which `ShapeError` it ends in. A missing field of a manifest is never an error: readers
that take a fallback use it only for a field that is absent, or for one that is absent or not
present, as their names say. A flat record, in contrast, must have each field that is asked for.
-/

namespace PolicyTopology

/-- Why a document could not be read. -/
inductive ShapeError where
  /-- A field was asked of something that is no object. -/
  | notAnObject
  /-- Items were asked of something that has none. -/
  | notASequence
  /-- An array or object stood where the key of a field belongs. -/
  | compositeKey
  /-- An item of a list of fields was no pair of key and value. -/
  | notAPair
  /-- A field was to be written into something that is no object, or removed from an array. -/
  | unwritable
  /-- A record lacks a field. -/
  | missingField
  /-- A field of a record is not of its type. -/
  | mismatched
deriving DecidableEq, Repr

namespace Document

def get : Document → String → Except ShapeError (Option Document)
  | .object fields, key => .ok (Entries.get? fields key)
  | _, _ => .error .notAnObject

/-- The field under `key`, or an empty object unless something is present there. -/
def getPresent (document : Document) (key : String) : Except ShapeError Document :=
  (document.get key).map orEmpty

/-- The field under `key` as a name; `fallback` stands for an absent field only. -/
def nameAt (document : Document) (key fallback : String) : Except ShapeError String :=
  (document.get key).map fun field => (field.map text).getD fallback

/-- The field under `key` as a name if something is present there. -/
def nameAt? (document : Document) (key : String) : Except ShapeError (Option String) :=
  (document.get key).map fun field => (field.filter isPresent).map text

/-- The items of a document: those of an array, the characters of a text, the keys of an object. -/
def items : Document → Except ShapeError (List Document)
  | .array items => .ok items
  | .string text => .ok ((Text.characters text).map .string)
  | .object fields => .ok ((Entries.keys fields).map .scalar)
  | _ => .error .notASequence

/-- The items of the field under `key`, none unless something is present there. -/
def itemsAt (document : Document) (key : String) : Except ShapeError (List Document) := do
  match (← document.get key).filter isPresent with
  | some field => field.items
  | none => .ok []

def asKey : Document → Except ShapeError Scalar
  | .scalar value => .ok value
  | .array _ => .error .compositeKey
  | .object _ => .error .compositeKey

def asField (document : Document) : Except ShapeError (Scalar × Document) := do
  match ← document.items with
  | [key, value] => .ok (← key.asKey, value)
  | _ => .error .notAPair

/-- The fields of an object, or of a sequence of pairs; a later pair replaces the value of an
earlier one with the same key, which keeps its spelling. -/
def toFields : Document → Except ShapeError Fields
  | .object fields => .ok fields
  | document => do
    let pairs ← (← document.items).mapM asField
    .ok (pairs.foldl (fun fields pair => Entries.set fields pair.1 pair.2) [])

def write : Document → String → Document → Except ShapeError Document
  | .object fields, key, value => .ok (.object (Entries.set fields key value))
  | _, _, _ => .error .unwritable

def without : Document → String → Except ShapeError Fields
  | .object fields, key => .ok (Entries.erase fields key)
  | .array _, _ => .error .unwritable
  | _, _ => .error .notAnObject

def asText : Document → Except ShapeError String
  | .string text => .ok text
  | _ => .error .mismatched

@[simp] theorem get_object (fields : Fields) (key : String) :
    get (.object fields) key = .ok (Entries.get? fields key) := rfl

@[simp] theorem toFields_object (fields : Fields) : toFields (.object fields) = .ok fields := rfl

@[simp] theorem write_object (fields : Fields) (key : String) (value : Document) :
    write (.object fields) key value = .ok (.object (Entries.set fields key value)) := rfl

@[simp] theorem without_object (fields : Fields) (key : String) :
    without (.object fields) key = .ok (Entries.erase fields key) := rfl

end Document

/-- The field under `key` of a record, which must have it. -/
def Fields.require (fields : Fields) (key : String) : Except ShapeError Document :=
  match Entries.get? fields key with
  | some field => .ok field
  | none => .error .missingField

end PolicyTopology
