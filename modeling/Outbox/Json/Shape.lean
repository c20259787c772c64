import Outbox.Json.Layout
import Outbox.Json.Scalar
import Outbox.Json.Skip

/-!
# Records in a JSON text

A record is read from an object, whose members may come in any order, or from a list of its fields
in order. Members with an unknown name are passed over. What may be left out is said per field.
-/

namespace Outbox.Json

/-- A field of a record. -/
structure Field (ρ : Type) where
  /-- The name of its member in an object. -/
  name : String
  /-- Reads its value and puts it into a record. -/
  read : Reader (ρ → ρ)
  /-- An object has to have it. -/
  required : Bool
  /-- A list may end before it. -/
  omittable : Bool

/-- A field that every object and every list has to have. -/
def Field.needed {ρ α : Type} (name : String) (read : Reader α) (put : α → ρ → ρ) : Field ρ :=
  ⟨name, fun s => (read s).map fun (a, s) => (put a, s), true, false⟩

/-- A field with a default, which may be left out. -/
def Field.defaulted {ρ α : Type} (name : String) (read : Reader α) (put : α → ρ → ρ) :
    Field ρ :=
  ⟨name, fun s => (read s).map fun (a, s) => (put a, s), false, true⟩

/-- A field that may be `null`, and may be left out of an object but not of a list. -/
def Field.nullable {ρ α : Type} (name : String) (read : Reader α)
    (put : Option α → ρ → ρ) : Field ρ :=
  ⟨name, fun s => (optional read s).map fun (a, s) => (put a, s), false, false⟩

/-- How a record is read. -/
structure Shape (ρ : Type) where
  name : String
  /-- The record whose fields are all left out. -/
  blank : ρ
  fields : List (Field ρ)

namespace Shape

variable {ρ : Type}

/-- What has been read of an object: the names of the fields that were there, and the record. -/
structure Progress (ρ : Type) where
  seen : List String
  record : ρ

/-- The start of an object. -/
def start (shape : Shape ρ) : Progress ρ := ⟨[], shape.blank⟩

/-- One member of an object. A second member of one name is refused before its value. -/
def member (shape : Shape ρ) (progress : Progress ρ) (key : String) : Reader (Progress ρ) := fun s =>
  match shape.fields.find? fun f => f.name == key with
  | none =>
    match skipColon s with
    | .error e => .error e
    | .ok s => (skipValue s).map (progress, ·)
  | some field =>
    if progress.seen.contains key then .error (.duplicate key)
    else
      match skipColon s with
      | .error e => .error e
      | .ok s => (field.read s).map fun (put, s) => (⟨key :: progress.seen, put progress.record⟩, s)

/-- The record of an object that has been read to its end, unless it lacks a field. -/
def finish (shape : Shape ρ) (progress : Progress ρ) : Except Fault ρ :=
  match shape.fields.find? fun f => f.required && ! progress.seen.contains f.name with
  | some field => .error (.missing field.name)
  | none => .ok progress.record

/-- The fault of a list that ends before a field it needs. -/
def tooShort (shape : Shape ρ) (count : Nat) : Fault :=
  .wrongLength count
    ("struct " ++ shape.name ++ " with " ++ toString shape.fields.length ++ " elements")

/-- The fields of a list, in order; `count` of them came before. After the end of the list only
fields may follow that can be left out. -/
def elements (shape : Shape ρ) : List (Field ρ) → Nat → ρ → Reader ρ
  | [], _, record, s => (closeList s).map (record, ·)
  | field :: fields, count, record, s =>
    match nextElement (count == 0) s with
    | .error e => .error e
    | .ok (.element s) =>
      match field.read s with
      | .error e => .error e
      | .ok (put, s) => elements shape fields (count + 1) (put record) s
    | .ok (.closed s) =>
      let omitted := (field :: fields).takeWhile (·.omittable)
      if omitted.length = fields.length + 1 then .ok (record, s)
      else .error (shape.tooShort (count + omitted.length))

/-- Reads a record. -/
def read (shape : Shape ρ) : Reader ρ := fun s =>
  match skipSpace s with
  | '{' :: s =>
    match object shape.member shape.start s with
    | .error e => .error e
    | .ok (progress, s) => (shape.finish progress).map (·, s)
  | '[' :: s => elements shape shape.fields 0 shape.blank s
  | s => .error (wrongType ("struct " ++ shape.name) s)

/-- The record that a text spells. -/
def decode (shape : Shape ρ) (text : String) : Except Fault ρ := whole shape.read text.toList

end Shape

end Outbox.Json
