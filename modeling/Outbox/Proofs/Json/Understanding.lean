import Mathlib.Data.List.TakeWhile
import Outbox.Proofs.Json.Skipping
import Outbox.Proofs.Json.Spelling

/-!
# Readers that understand a spelling

A reader understands a way to write values (`Understands`) if it reads each of these texts as its
value, and if it takes from other texts only what would also be passed over.
-/

namespace Outbox.Json

variable {α β : Type} {read : Reader α}

/-- What the reader takes would also be passed over where a value has to stand. -/
def Follows (read : Reader α) : Prop :=
  ∀ (s r : Input) (a : α), read s = .ok (a, r) →
    ∀ stack, ∃ k, Leads k .before stack s .after stack r

/-- The reader passes over blanks before a value. -/
def SkipsBlanks (read : Reader α) : Prop := ∀ (w : Blank) (s : Input), read (w ++ s) = read s

/-- The reader takes no text that begins with this one. -/
def Refuses (read : Reader α) (t : List Char) : Prop :=
  ∀ (w : Blank) (rest : Input) (x : α × Input), read (w ++ (t ++ rest)) ≠ .ok x

/-- The reader reads the texts of values, and is not misled by others. -/
structure Understands (read : Reader α) (Text : α → List Char → Prop) : Prop where
  reads : ∀ {a t}, Text a t → Reads read t a
  starts : ∀ {a t}, Text a t → Starts t
  blanks : SkipsBlanks read
  follows : Follows read
  null : Refuses read nullText

theorem Follows.map (h : Follows read) (f : α → β) :
    Follows fun s => (read s).map fun (a, s) => (f a, s) := by
  intro s r b hs stack
  obtain ⟨⟨a, r'⟩, ha, eq⟩ := map_eq_ok.mp hs
  cases eq
  exact h _ _ _ ha stack

theorem SkipsBlanks.map (h : SkipsBlanks read) (f : α → β) :
    SkipsBlanks fun s => (read s).map fun (a, s) => (f a, s) := by
  intro w s
  simp only [h w s]

theorem SkipsBlanks.skipSpace (h : SkipsBlanks read) (s : Input) : read (skipSpace s) = read s := by
  have blank : ∀ c ∈ s.takeWhile isSpace, c ∈ blanks := fun c hc =>
    isSpace_iff.mp (List.mem_takeWhile_imp hc)
  have same := h ⟨s.takeWhile isSpace, blank⟩ (s.dropWhile isSpace)
  rw [show (s.takeWhile isSpace) ++ s.dropWhile isSpace = s from List.takeWhile_append_dropWhile]
    at same
  exact same.symm

theorem Refuses.map {t : List Char} (h : Refuses read t) (f : α → β) :
    Refuses (fun s => (read s).map fun (a, s) => (f a, s)) t := by
  intro w rest x hx
  obtain ⟨y, hy, -⟩ := map_eq_ok.mp hx
  exact h w rest y hy

/-- What the reader takes of a value is the whole value. -/
theorem Follows.exact (h : Follows read) {w : Blank} {v : List Char} (value : IsValue v)
    {rest r : Input} {a : α} (hr : Ends rest) (hs : read (w ++ (v ++ rest)) = .ok (a, r)) :
    r = rest := by
  obtain ⟨c, t, hv, space, -⟩ := value.eq_cons
  have begins : skipSpace (w ++ (v ++ rest)) = v ++ rest := by
    rw [skipSpace_blank, hv, List.cons_append, skipSpace_cons space]
  obtain ⟨k, one⟩ := h _ _ _ hs []
  obtain ⟨l, -, other⟩ := value.passed _ rest [] begins hr
  exact one.unique other

/-! ### Whole texts -/

/-- Blanks around the text of a value do not matter. -/
theorem Understands.whole {Text : α → List Char → Prop} (h : Understands read Text) {a : α}
    {text : String} (ht : Whole (Text a) text) : Json.whole read text.toList = .ok a := by
  obtain ⟨w, w', t, ht, eq⟩ := ht
  have taken : read (t ++ w') = .ok (a, w') := by
    refine h.reads ht w' ?_
    have ends := ends_blank w' ends_nil
    rwa [List.append_nil] at ends
  have blank : skipSpace w' = [] := 
    List.dropWhile_eq_nil_iff.mpr fun c hc => isSpace_iff.mpr (w'.2 c hc)
  rw [eq, Json.whole, h.blanks, taken]
  simp [blank]

/-- What is refused is also refused with blanks around it. -/
theorem whole_ne_of_refuses {P : List Char → Prop} (h : ∀ {t}, P t → Refuses read t) {text : String}
    (ht : Whole P text) (a : α) : whole read text.toList ≠ .ok a := by
  obtain ⟨w, w', t, ht, eq⟩ := ht
  intro taken
  unfold whole at taken
  split at taken
  · cases taken
  · next x r hx => exact h ht w w' (x, r) (eq ▸ hx)

/-! ### Strings and numbers -/

theorem follows_text : Follows text := by
  intro s r a hs stack
  unfold text at hs
  split at hs
  · next t ht =>
    have skips : skipScalar ('"' :: t) = .ok r := skipText_of_textBody hs
    exact ⟨1, (SkipStep.scalar ht rfl skips).leads⟩
  · cases hs

theorem skipNumber_of_number {s r : Input} {n : Number} (h : number s = .ok (n, r)) :
    skipNumber s = .ok r := by
  obtain ⟨l, hl, -⟩ := number_eq_ok.mp h
  rw [skipNumber, hl]

theorem follows_numeric (expected : String) (accept : Number → Except Fault α) :
    Follows (numeric expected accept) := by
  intro s r a hs stack
  unfold numeric at hs
  split at hs
  · cases hs
  · next c t ht =>
    split_ifs at hs with begins
    rcases hn : number (c :: t) with fault | ⟨n, s'⟩
    · simp [hn] at hs
    · rw [hn] at hs
      obtain ⟨b, -, eq⟩ := map_eq_ok.mp hs
      cases eq
      refine ⟨1, (SkipStep.scalar ht (opened_number begins) ?_).leads⟩
      rw [skipScalar_number begins, skipNumber_of_number hn]

theorem skipsBlanks_numeric (expected : String) (accept : Number → Except Fault α) :
    SkipsBlanks (numeric expected accept) := by
  intro w s
  simp only [numeric, skipSpace_blank]

theorem refuses_numeric (expected : String) (accept : Number → Except Fault α) :
    Refuses (numeric expected accept) nullText := by
  intro w rest x hx
  rw [skipsBlanks_numeric] at hx
  cases hx

/-- The texts of a string. -/
def StringText (s : String) (t : List Char) : Prop :=
  ∃ k, SpellsText s k ∧ t = '"' :: (k ++ ['"'])

/-- The text of an integer. -/
def IntText (n : Int) (t : List Char) : Prop := t = printInt n

theorem understands_text : Understands text StringText where
  reads := by
    rintro s _ ⟨k, spells, rfl⟩ rest -
    rw [List.cons_append, List.append_assoc, text, skipSpace_cons rfl]
    exact textBody_spells spells rest
  starts := by
    rintro s _ ⟨k, -, rfl⟩
    exact ⟨_, _, rfl, rfl, by decide⟩
  blanks w s := by simp only [text, skipSpace_blank]
  follows := follows_text
  null w rest x hx := by
    simp only [text, skipSpace_blank] at hx
    cases hx

theorem understands_int32 : Understands int32 fun x => IntText x.toInt where
  reads := by
    rintro x _ rfl
    exact reads_int32 x
  starts := by
    rintro x _ rfl
    exact starts_printInt _
  blanks := (skipsBlanks_numeric _ _).map Int32.ofInt
  follows := (follows_numeric _ _).map Int32.ofInt
  null := (refuses_numeric _ _).map Int32.ofInt

theorem understands_int64 : Understands int64 fun x => IntText x.toInt where
  reads := by
    rintro x _ rfl
    exact reads_int64 x
  starts := by
    rintro x _ rfl
    exact starts_printInt _
  blanks := (skipsBlanks_numeric _ _).map Int64.ofInt
  follows := (follows_numeric _ _).map Int64.ofInt
  null := (refuses_numeric _ _).map Int64.ofInt

theorem understands_uint16 : Understands uint16 fun x => IntText x.toNat where
  reads := by
    rintro x _ rfl
    exact reads_uint16 x
  starts := by
    rintro x _ rfl
    exact starts_printInt _
  blanks := (skipsBlanks_numeric _ _).map fun n : Int => UInt16.ofNat n.toNat
  follows := (follows_numeric _ _).map fun n : Int => UInt16.ofNat n.toNat
  null := (refuses_numeric _ _).map fun n : Int => UInt16.ofNat n.toNat

theorem understands_double : Understands double DoubleText where
  reads := reads_doubleText
  starts := by
    rintro x t ⟨l, n, literal, -⟩
    obtain ⟨c, s, rfl, begins⟩ := literal.eq_cons
    exact starts_of_number begins s
  blanks := skipsBlanks_numeric _ _
  follows := follows_numeric _ _
  null := refuses_numeric _ _

/-! ### Values that may be missing -/

section Optional

variable {Text : α → List Char → Prop}

theorem SkipsBlanks.optional : SkipsBlanks (optional read) := by
  intro w s
  simp only [Json.optional, skipSpace_blank]

theorem Follows.optional (h : Follows read) : Follows (optional read) := by
  intro s r a hs stack
  unfold Json.optional at hs
  split at hs
  · next t ht =>
    obtain ⟨r', hr, eq⟩ := map_eq_ok.mp hs
    cases eq
    exact ⟨1, (SkipStep.scalar ht rfl hr).leads⟩
  · obtain ⟨⟨b, r'⟩, hr, eq⟩ := map_eq_ok.mp hs
    cases eq
    obtain ⟨k, leads⟩ := h _ _ _ hr stack
    exact ⟨k, leads_skipSpace leads⟩

theorem Understands.reads_optional (h : Understands read Text) {a? : Option α} {t : List Char}
    (ht : OptionText Text a? t) : Reads (optional read) t a? := by
  cases a? with
  | none =>
    cases ht
    exact reads_null read
  | some a => exact (h.reads ht).some (h.starts ht)

/-- What the reader refuses, it refuses also where it may be missing, unless it is `null`. -/
theorem Refuses.optional (blanks : SkipsBlanks read) {t : List Char} (starts : Starts t)
    (h : Refuses read t) : Refuses (optional read) t := by
  obtain ⟨c, s, rfl, space, notNull⟩ := starts
  intro w rest x hx
  rw [SkipsBlanks.optional, List.cons_append, Json.optional, skipSpace_cons space] at hx
  split at hx
  · next eq => exact notNull (List.cons.inj eq).1
  · obtain ⟨y, hy, -⟩ := map_eq_ok.mp hx
    exact h w rest y ((blanks w _).trans hy)

end Optional

end Outbox.Json
