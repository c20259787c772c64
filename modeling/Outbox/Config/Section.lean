import Outbox.Toml.Value

/-!
# Sections of a configuration

A section is a table of settings, or an array of them in order. Settings with unknown names are
passed over, and a time counts as a section that says nothing.
-/

namespace Outbox

open Toml (Value)

/-- A setting of a section. -/
structure Setting (ρ : Type) where
  name : String
  /-- Reads the value of the setting and puts it into a section. -/
  read : Value → Option (ρ → ρ)
  /-- An array may end before it. -/
  omittable : Bool

namespace Setting

variable {ρ α : Type}

/-- A setting with a default. -/
def defaulted (name : String) (read : Value → Option α) (put : α → ρ → ρ) : Setting ρ :=
  ⟨name, fun v => (read v).map put, true⟩

/-- A setting that may be missing from a table, but not from an array. -/
def optional (name : String) (read : Value → Option α) (put : α → ρ → ρ) : Setting ρ :=
  ⟨name, fun v => (read v).map put, false⟩

end Setting

/-! ### Values -/

/-- A text. -/
def Toml.Value.text? : Value → Option String
  | .text s => some s
  | _ => none

/-- A truth value. -/
def Toml.Value.boolean? : Value → Option Bool
  | .boolean b => some b
  | _ => none

/-- A natural number. -/
def Toml.Value.natural? : Value → Option Nat
  | .integer n => if 0 ≤ n then some n.toNat else none
  | _ => none

namespace Section

variable {ρ : Type}

/-- The section after the settings of a table. -/
def ofTable (entries : Toml.Entries) : List (Setting ρ) → ρ → Option ρ
  | [], section_ => some section_
  | setting :: settings, section_ =>
    match entries.get? setting.name with
    | none => ofTable entries settings section_
    | some v =>
      match setting.read v with
      | none => none
      | some put => ofTable entries settings (put section_)

/-- The section after the settings of an array. -/
def ofArray : List (Setting ρ) → List Value → ρ → Option ρ
  | [], _, section_ => some section_
  | setting :: settings, [], section_ =>
    if (setting :: settings).all (·.omittable) then some section_ else none
  | setting :: settings, v :: items, section_ =>
    match setting.read v with
    | none => none
    | some put => ofArray settings items (put section_)

/-- The section that a value spells. -/
def ofValue (settings : List (Setting ρ)) (blank : ρ) : Value → Option ρ
  | .table _ entries => ofTable entries settings blank
  | .array items => ofArray settings items blank
  | .tables items => ofArray settings items blank
  | .time => some blank
  | _ => none

end Section

end Outbox
