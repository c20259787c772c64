import Outbox.Json.Print
import Outbox.Json.Scan
import Outbox.Json.Number

/-!
# The grammar of JSON texts

What is a value (`IsValue`), said without any reader. A string is said in two ways: what may stand
between its quotes (`IsContent`), where an escape may also be half of a surrogate pair, and which of
these texts spell a string of characters (`SpellsText`). A number is a text with its literal
(`LiteralText`), digit for digit.
-/

namespace Outbox.Json

/-- The blank characters. -/
def blanks : List Char := [' ', '\t', '\n', '\r']

/-- A text of blanks. -/
abbrev Blank := { w : Input // ∀ c ∈ w, c ∈ blanks }

/-! ### Strings -/

/-- The character is the digit of a number below sixteen, in either case. -/
def IsHexDigit (v : Nat) (c : Char) : Prop :=
  "0123456789abcdef".toList[v]? = some c ∨ "0123456789ABCDEF".toList[v]? = some c

/-- The four hexadecimal digits of a number. -/
inductive Quad : Nat → List Char → Prop
  | digits {x y z w : Nat} {a b c d : Char} (first : IsHexDigit x a) (second : IsHexDigit y b)
      (third : IsHexDigit z c) (fourth : IsHexDigit w d) :
      Quad (16 * (16 * (16 * x + y) + z) + w) [a, b, c, d]

/-- The letters that stand for a character after a backslash, with this character. -/
def shortEscapes : List (Char × Char) := [
  ('"', '"'), ('\\', '\\'), ('/', '/'), ('b', '\x08'), ('f', '\x0c'), ('n', '\n'), ('r', '\r'),
  ('t', '\t')]

/-- The number is the first half of a surrogate pair. -/
def IsHigh (n : Nat) : Prop := 0xD800 ≤ n ∧ n ≤ 0xDBFF

/-- The number is the second half of a surrogate pair. -/
def IsLow (n : Nat) : Prop := 0xDC00 ≤ n ∧ n ≤ 0xDFFF

instance (n : Nat) : Decidable (IsHigh n) := inferInstanceAs (Decidable (_ ∧ _))

instance (n : Nat) : Decidable (IsLow n) := inferInstanceAs (Decidable (_ ∧ _))

/-- The character stands for itself between quotes. -/
structure IsPlain (c : Char) : Prop where
  visible : 0x20 ≤ c.toNat
  not_quote : c ≠ '"'
  not_backslash : c ≠ '\\'

instance : DecidablePred IsPlain := fun c =>
  decidable_of_iff (0x20 ≤ c.toNat ∧ c ≠ '"' ∧ c ≠ '\\')
    ⟨fun h => ⟨h.1, h.2.1, h.2.2⟩, fun h => ⟨h.1, h.2, h.3⟩⟩

/-- What may stand between the quotes of a string. -/
inductive IsContent : List Char → Prop
  | nil : IsContent []
  | plain {c : Char} {k : List Char} (plain : IsPlain c) (more : IsContent k) : IsContent (c :: k)
  | short {e c : Char} {k : List Char} (known : (e, c) ∈ shortEscapes) (more : IsContent k) :
      IsContent ('\\' :: e :: k)
  | unit {n : Nat} {ds k : List Char} (quad : Quad n ds) (more : IsContent k) :
      IsContent ('\\' :: 'u' :: (ds ++ k))

/-- The ways to write one character between quotes. -/
inductive SpellsChar : Char → List Char → Prop
  | plain {c : Char} (plain : IsPlain c) : SpellsChar c [c]
  | short {e c : Char} (known : (e, c) ∈ shortEscapes) : SpellsChar c ['\\', e]
  | unit {n : Nat} {ds : List Char} (quad : Quad n ds) (high : ¬ IsHigh n) (low : ¬ IsLow n) :
      SpellsChar (Char.ofNat n) ('\\' :: 'u' :: ds)
  | pair {n m : Nat} {ds es : List Char} (first : Quad n ds) (high : IsHigh n) (second : Quad m es)
      (low : IsLow m) :
      SpellsChar (Char.ofNat (0x10000 + (n - 0xD800) * 0x400 + (m - 0xDC00)))
        ('\\' :: 'u' :: (ds ++ '\\' :: 'u' :: es))

/-- The characters are written one after the other. -/
inductive SpellsChars : List Char → List Char → Prop
  | nil : SpellsChars [] []
  | cons {c : Char} {cs t k : List Char} (first : SpellsChar c t) (more : SpellsChars cs k) :
      SpellsChars (c :: cs) (t ++ k)

/-- What stands between the quotes spells the string. -/
def SpellsText (s : String) (k : List Char) : Prop := SpellsChars s.toList k

/-- A string of plain characters spells itself. -/
theorem SpellsText.of_plain {s : String} (plain : s.toList.all fun c => decide (IsPlain c)) :
    SpellsText s s.toList := by
  simp only [List.all_eq_true, decide_eq_true_eq] at plain
  unfold SpellsText
  generalize s.toList = cs at plain ⊢
  induction cs with
  | nil => exact .nil
  | cons c cs ih =>
    exact .cons (.plain (plain c (by simp))) (ih fun d hd => plain d (by simp [hd]))

theorem IsContent.of_plain {k : List Char} (plain : k.all fun c => decide (IsPlain c)) :
    IsContent k := by
  simp only [List.all_eq_true, decide_eq_true_eq] at plain
  induction k with
  | nil => exact .nil
  | cons c k ih => exact .plain (plain c (by simp)) (ih fun d hd => plain d (by simp [hd]))

/-! ### Numbers -/

/-- At least one digit. -/
structure DigitsText (ds : List Nat) (t : List Char) : Prop where
  some : t ≠ []
  digits : ∀ c ∈ t, c.isDigit = true
  values : ds = t.map digitValue

/-- The digits before the point: a zero stands alone. -/
inductive WholeText : List Nat → List Char → Prop
  | zero : WholeText [0] ['0']
  | digits {ds : List Nat} {c : Char} {t : List Char} (digits : DigitsText ds (c :: t))
      (first : c ≠ '0') : WholeText ds (c :: t)

/-- The point and the digits after it, if there is a point. -/
inductive FractionText : Option (List Nat) → List Char → Prop
  | none : FractionText none []
  | some {ds : List Nat} {t : List Char} (digits : DigitsText ds t) :
      FractionText (some ds) ('.' :: t)

/-- The power of ten, if one is given. -/
inductive ExponentText : Option (Bool × List Nat) → List Char → Prop
  | none : ExponentText none []
  | plain {c : Char} {ds : List Nat} {t : List Char} (sign : c = 'e' ∨ c = 'E')
      (digits : DigitsText ds t) : ExponentText (some (false, ds)) (c :: t)
  | plus {c : Char} {ds : List Nat} {t : List Char} (sign : c = 'e' ∨ c = 'E')
      (digits : DigitsText ds t) : ExponentText (some (false, ds)) (c :: '+' :: t)
  | minus {c : Char} {ds : List Nat} {t : List Char} (sign : c = 'e' ∨ c = 'E')
      (digits : DigitsText ds t) : ExponentText (some (true, ds)) (c :: '-' :: t)

/-- The text of a number. -/
inductive LiteralText : Literal → List Char → Prop
  | plain {whole : List Nat} {fraction : Option (List Nat)} {exponent : Option (Bool × List Nat)}
      {w f e : List Char} (hw : WholeText whole w) (hf : FractionText fraction f)
      (he : ExponentText exponent e) : LiteralText ⟨false, whole, fraction, exponent⟩ (w ++ (f ++ e))
  | minus {whole : List Nat} {fraction : Option (List Nat)} {exponent : Option (Bool × List Nat)}
      {w f e : List Char} (hw : WholeText whole w) (hf : FractionText fraction f)
      (he : ExponentText exponent e) :
      LiteralText ⟨true, whole, fraction, exponent⟩ ('-' :: (w ++ (f ++ e)))

/-! ### Lists and objects -/

/-- An element of a list, with the blanks around it. -/
structure Item where
  before : Blank
  value : List Char
  after : Blank

/-- A member of an object, with the blanks around its parts. -/
structure Member where
  before : Blank
  /-- What stands between the quotes of the key. -/
  key : List Char
  afterKey : Blank
  afterColon : Blank
  value : List Char
  after : Blank

/-- An element as it is written. -/
def Item.text (i : Item) : List Char := i.before ++ (i.value ++ i.after)

/-- A key with its colon, as it is written. -/
def Member.keyText (m : Member) : List Char :=
  m.before ++ '"' :: (m.key ++ '"' :: (m.afterKey ++ [':']))

/-- A member as it is written. -/
def Member.text (m : Member) : List Char := m.keyText ++ (m.afterColon ++ (m.value ++ m.after))

/-- A list. The blanks come first, also if there is no element. -/
def listText (inside : Blank) (items : List Item) : List Char :=
  '[' :: (inside ++ (commaSeparated (items.map Item.text) ++ [']']))

/-- An object. The blanks come first, also if there is no member. -/
def objectText (inside : Blank) (ms : List Member) : List Char :=
  '{' :: (inside ++ (commaSeparated (ms.map Member.text) ++ ['}']))

/-- The text for nothing. -/
def nullText : List Char := 'n' :: nullRest

/-- The values of JSON. -/
inductive IsValue : List Char → Prop
  | null : IsValue nullText
  | yes : IsValue ('t' :: trueRest)
  | no : IsValue ('f' :: falseRest)
  | number {l : Literal} {t : List Char} (literal : LiteralText l t) : IsValue t
  | text {k : List Char} (content : IsContent k) : IsValue ('"' :: (k ++ ['"']))
  | list (inside : Blank) {items : List Item} (values : ∀ i ∈ items, IsValue i.value) :
      IsValue (listText inside items)
  | object (inside : Blank) {ms : List Member} (keys : ∀ m ∈ ms, IsContent m.key)
      (values : ∀ m ∈ ms, IsValue m.value) : IsValue (objectText inside ms)

end Outbox.Json
