import Outbox.Proofs.Json.Grammar

/-!
# The spellings of a record

Which texts spell a record (`RecordText`), said of its parts and without any reader: an object, whose
members may come in any order and among any others, or a list of the parts in order. And which
objects are no record (`Flawed`).
-/

namespace Outbox.Json

/-- A part of a record. -/
structure Part (ρ : Type) where
  name : String
  /-- The texts of its value. -/
  Text : ρ → List Char → Prop
  /-- The record may be written without it. -/
  Omits : ρ → Prop
  /-- An object has to have a member for it. -/
  needed : Bool
  /-- Values that no member for it has. -/
  Wrong : List Char → Prop

/-- The texts of a value that may be missing. -/
def OptionText {α : Type} (Text : α → List Char → Prop) : Option α → List Char → Prop
  | none, t => t = nullText
  | some a, t => Text a t

namespace Part

variable {ρ α : Type}

/-- A part that is always written. -/
def required (name : String) (Text : α → List Char → Prop) (get : ρ → α) : Part ρ where
  name
  Text r := Text (get r)
  Omits _ := False
  needed := true
  Wrong t := t = nullText

/-- A part that may be left out where it has its default. -/
def defaulted (name : String) (Text : α → List Char → Prop) (get : ρ → α) (default : α) :
    Part ρ where
  name
  Text r := Text (get r)
  Omits r := get r = default
  needed := false
  Wrong t := t = nullText

/-- A part that may be missing, and is `null` or left out then. -/
def optional (name : String) (Text : α → List Char → Prop) (get : ρ → Option α)
    (Wrong : List Char → Prop) : Part ρ where
  name
  Text r := OptionText Text (get r)
  Omits r := get r = none
  needed := false
  Wrong

end Part

variable {ρ : Type}

/-- A member that is for no part, with any value. -/
structure Member.IsOther (m : Member) (parts : List (Part ρ)) : Prop where
  key : ∃ key, SpellsText key m.key ∧ ∀ p ∈ parts, p.name ≠ key
  value : IsValue m.value

/-- The members spell the record. -/
structure MembersText (parts : List (Part ρ)) (r : ρ) (ms : List Member) : Prop where
  each : ∀ m ∈ ms, (∃ p ∈ parts, SpellsText p.name m.key ∧ p.Text r m.value) ∨ m.IsOther parts
  once : ms.Pairwise fun m m' =>
    ∀ p ∈ parts, ¬ (SpellsText p.name m.key ∧ SpellsText p.name m'.key)
  rest : ∀ p ∈ parts, (∃ m ∈ ms, SpellsText p.name m.key) ∨ p.Omits r

/-- The elements spell the first parts of the record, and the others may be left out. -/
inductive ItemsText (r : ρ) : List (Part ρ) → List Item → Prop
  | ended {parts : List (Part ρ)} (omitted : ∀ p ∈ parts, p.Omits r) : ItemsText r parts []
  | next {p : Part ρ} {parts : List (Part ρ)} {i : Item} {items : List Item}
      (here : p.Text r i.value) (more : ItemsText r parts items) :
      ItemsText r (p :: parts) (i :: items)

/-- What has no element at the end of a list may be left out. -/
theorem ItemsText.omits {r : ρ} {parts : List (Part ρ)} (h : ItemsText r parts []) :
    ∀ p ∈ parts, p.Omits r := by
  cases h with
  | ended omitted => exact omitted

/-- The texts of a record. -/
inductive RecordText (parts : List (Part ρ)) (r : ρ) : List Char → Prop
  | object (inside : Blank) {ms : List Member} (members : MembersText parts r ms) :
      RecordText parts r (objectText inside ms)
  | list (inside : Blank) {items : List Item} (elements : ItemsText r parts items) :
      RecordText parts r (listText inside items)

/-- The members are not those of a record. -/
inductive MembersFlawed (parts : List (Part ρ)) (ms : List Member) : Prop
  | missing {p : Part ρ} (part : p ∈ parts) (needed : p.needed = true)
      (none : ∀ m ∈ ms, ¬ SpellsText p.name m.key)
  | repeated {p : Part ρ} {m m' : Member} (part : p ∈ parts) (two : [m, m'].Sublist ms)
      (first : SpellsText p.name m.key) (second : SpellsText p.name m'.key)
  | wrong {p : Part ρ} {m : Member} (part : p ∈ parts) (member : m ∈ ms)
      (name : SpellsText p.name m.key) (wrong : p.Wrong m.value)

/-- An object that is no record. -/
inductive Flawed (parts : List (Part ρ)) : List Char → Prop
  | object (inside : Blank) {ms : List Member} (keys : ∀ m ∈ ms, IsContent m.key)
      (values : ∀ m ∈ ms, IsValue m.value) (flaw : MembersFlawed parts ms) :
      Flawed parts (objectText inside ms)

/-- The whole text is one of these, with blanks around it. -/
def Whole (P : List Char → Prop) (text : String) : Prop :=
  ∃ (w w' : Blank) (t : List Char), P t ∧ text.toList = w ++ (t ++ w')

end Outbox.Json
