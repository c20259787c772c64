import Outbox.Json.Skip
import Outbox.Proofs.Json.Numerals
import Outbox.Proofs.Json.Record
import Outbox.Proofs.Json.Strings

/-!
# Values that are passed over

Every value is passed over, however deep it is nested, and just up to its end
(`skipValue_of_isValue`). The steps of the reader that does this are put together with
`Leads.trans`.
-/

namespace Outbox.Json

/-! ### Blanks -/

theorem isSpace_iff {c : Char} : isSpace c = true ↔ c ∈ blanks := by
  simp [isSpace, blanks, or_assoc]

theorem skipSpace_blank (w : Blank) (s : Input) : skipSpace (w ++ s) = skipSpace s :=
  List.dropWhile_append_of_pos fun c hc => isSpace_iff.mpr (w.2 c hc)

theorem skipSpace_idem (s : Input) : skipSpace (skipSpace s) = skipSpace s := by
  induction s with
  | nil => rfl
  | cons c s ih =>
    by_cases space : isSpace c = true
    · have skipped : skipSpace (c :: s) = skipSpace s := by simp [skipSpace, space]
      rw [skipped, ih]
    · have kept := skipSpace_cons (Bool.eq_false_iff.mpr space) s
      rw [kept, kept]

/-- No number goes on where blanks and then a sign of the format follow. -/
theorem ends_blank (w : Blank) {rest : Input} (hr : Ends rest) : Ends (w ++ rest) := by
  obtain ⟨w, blank⟩ := w
  cases w with
  | nil => exact hr
  | cons d w =>
    rintro c ⟨⟩
    have space : d = ' ' ∨ d = '\t' ∨ d = '\n' ∨ d = '\r' := by
      simpa [blanks] using blank d List.mem_cons_self
    rcases space with rfl | rfl | rfl | rfl <;> decide

/-! ### Steps -/

variable {k l : Nat} {p p' p'' : Place} {fs fs' fs'' stack : List Frame} {s s' s'' t r rest : Input}
  {c d : Char} {frame : Frame}

/-- After so many steps the reader has come from one place in a text to another. -/
def Leads (k : Nat) (p : Place) (fs : List Frame) (s : Input) (p' : Place) (fs' : List Frame)
    (s' : Input) : Prop :=
  ∀ n, skipLoop (n + k) p fs s = skipLoop n p' fs' s'

theorem Leads.trans (h : Leads k p fs s p' fs' s') (h' : Leads l p' fs' s' p'' fs'' s'') :
    Leads (k + l) p fs s p'' fs'' s'' := by
  intro n
  rw [Nat.add_comm k l, ← Nat.add_assoc, h, h']

/-- One step of the reader: it takes a value that is neither a list nor an object, passes over an
empty one, opens one, goes on in one or closes it. -/
inductive SkipStep : Place → List Frame → Input → Place → List Frame → Input → Prop
  | scalar {stack : List Frame} {s t r : Input} {c : Char} (begins : skipSpace s = c :: t)
      (plain : Frame.opened c = none) (taken : skipScalar (c :: t) = .ok r) :
      SkipStep .before stack s .after stack r
  | empty {stack : List Frame} {s t r : Input} {c : Char} {frame : Frame}
      (begins : skipSpace s = c :: t) (opened : Frame.opened c = some frame)
      (ended : skipSpace t = frame.closing :: r) : SkipStep .before stack s .after stack r
  | enter {stack : List Frame} {s t s' r : Input} {c d : Char} {frame : Frame}
      (begins : skipSpace s = c :: t) (opened : Frame.opened c = some frame)
      (first : skipSpace t = d :: s') (more : d ≠ frame.closing)
      (entered : frame.enter (d :: s') = .ok r) : SkipStep .before stack s .before (frame :: stack) r
  | comma {stack : List Frame} {s t r : Input} {frame : Frame} (begins : skipSpace s = ',' :: t)
      (entered : frame.enter t = .ok r) :
      SkipStep .after (frame :: stack) s .before (frame :: stack) r
  | close {stack : List Frame} {s t : Input} {frame : Frame}
      (begins : skipSpace s = frame.closing :: t) : SkipStep .after (frame :: stack) s .after stack t

/-- What is a step is made by the reader. -/
theorem SkipStep.leads (h : SkipStep p fs s p' fs' s') : Leads 1 p fs s p' fs' s' := by
  intro n
  cases h with
  | scalar begins plain taken => simp only [skipLoop, begins, plain, taken]
  | empty begins opened ended => simp only [skipLoop, begins, opened, ended, if_true]
  | enter begins opened first more entered =>
    simp only [skipLoop, begins, opened, first, if_neg more, entered]
  | comma begins entered => simp only [skipLoop, begins, entered]
  | @close _ _ _ frame begins => cases frame <;> simp [skipLoop, begins, Frame.closing]

/-- Where a value has to stand, blanks before it do not matter. -/
theorem leads_skipSpace (h : Leads k .before stack (skipSpace s) p' fs' s') :
    Leads k .before stack s p' fs' s' := by
  intro n
  rw [← h n]
  cases n + k with
  | zero => rfl
  | succ m => simp only [skipLoop, skipSpace_idem]

/-- What is passed over from a text to its rest does not depend on how it is done. -/
theorem Leads.unique (h : Leads k .before [] s .after [] r) (h' : Leads l .before [] s .after [] t) :
    r = t := by
  have one := h (1 + l)
  have other := h' (1 + k)
  rw [Nat.add_right_comm, other, Nat.add_comm 1 l, Nat.add_comm 1 k] at one
  exact (Except.ok.inj one).symm

/-- What is passed over begins with no end of a list. -/
theorem Leads.begins (h : Leads k .before [] s .after [] r) :
    ∃ c t, skipSpace s = c :: t ∧ c ≠ ']' := by
  have run := h 1
  rw [Nat.add_comm] at run
  cases hs : skipSpace s with
  | nil => cases k <;> simp [skipLoop, hs] at run
  | cons c t =>
    refine ⟨c, t, rfl, ?_⟩
    rintro rfl
    cases k <;> simp [skipLoop, hs, Frame.opened, skipScalar] at run

/-- Where a value is passed over in no more steps than it has characters, its end is found. -/
theorem Leads.skipValue (h : Leads k .before [] s .after [] r) (enough : k ≤ s.length) :
    skipValue s = .ok r := by
  obtain ⟨n, hn⟩ := Nat.exists_eq_add_of_le enough
  rw [Json.skipValue, hn, Nat.add_assoc, Nat.add_comm k, h]
  rfl

/-- What the reader does next: it is at the end, or makes a step and goes on. -/
theorem skipLoop_cases {n : Nat} (h : skipLoop (n + 1) p fs s = .ok r) :
    (p = .after ∧ fs = [] ∧ s = r) ∨
      ∃ p' fs' s', SkipStep p fs s p' fs' s' ∧ skipLoop n p' fs' s' = .ok r := by
  cases p with
  | before =>
    refine .inr ?_
    unfold skipLoop at h
    split at h
    · cases h
    · next c t hs =>
      split at h
      · next plain =>
        split at h
        · cases h
        · next s' scalar => exact ⟨_, _, _, .scalar hs plain scalar, h⟩
      · next frame opened =>
        split at h
        · cases h
        · next d u ht =>
          split_ifs at h with close
          · exact ⟨_, _, _, .empty hs opened (close ▸ ht), h⟩
          · split at h
            · cases h
            · next s' enter => exact ⟨_, _, _, .enter hs opened ht close enter, h⟩
  | after =>
    cases fs with
    | nil => exact .inl ⟨rfl, rfl, Except.ok.inj h⟩
    | cons frame fs =>
      refine .inr ?_
      unfold skipLoop at h
      split at h
      · cases h
      · next t hs =>
        split at h
        · cases h
        · next s' enter => exact ⟨_, _, _, .comma hs enter, h⟩
      · next c t _ hs =>
        split_ifs at h with close
        exact ⟨_, _, _, .close (close ▸ hs), h⟩

/-- The reader makes the same step with more around it. -/
theorem SkipStep.around (h : SkipStep p fs s p' fs' s') (stack : List Frame) :
    SkipStep p (fs ++ stack) s p' (fs' ++ stack) s' := by
  cases h with
  | scalar begins plain taken => exact .scalar begins plain taken
  | empty begins opened ended => exact .empty begins opened ended
  | enter begins opened first more entered => exact .enter begins opened first more entered
  | comma begins entered => exact .comma begins entered
  | close begins => exact .close begins

/-- Where the reader has come to the end of everything open, it would also have come there with
more around it. -/
theorem leads_of_skipLoop {n : Nat} (h : skipLoop n p fs s = .ok r) (stack : List Frame) :
    ∃ k, Leads k p (fs ++ stack) s .after stack r := by
  induction n generalizing p fs s with
  | zero => cases h
  | succ n ih =>
    rcases skipLoop_cases h with ⟨rfl, rfl, rfl⟩ | ⟨p', fs', s', step, later⟩
    · exact ⟨0, fun _ => rfl⟩
    · obtain ⟨k, more⟩ := ih later
      exact ⟨1 + k, (step.around stack).leads.trans more⟩

/-! ### Values -/

/-- The text is passed over where a value has to stand. -/
def Passed (v : List Char) : Prop :=
  ∀ (s rest : Input) (stack : List Frame), skipSpace s = v ++ rest → Ends rest →
    ∃ k ≤ v.length, Leads k .before stack s .after stack rest

/-- A value begins with a character that is neither blank nor the end of a list. -/
theorem IsValue.eq_cons {v : List Char} (h : IsValue v) :
    ∃ c t, v = c :: t ∧ isSpace c = false ∧ c ≠ ']' := by
  cases h with
  | number literal =>
    obtain ⟨c, t, rfl, begins⟩ := literal.eq_cons
    obtain ⟨_, _, ⟨⟩, space, -⟩ := starts_of_number begins t
    refine ⟨c, t, rfl, space, ?_⟩
    rintro rfl
    exact absurd begins (by decide)
  | _ => exact ⟨_, _, rfl, by decide, by decide⟩

theorem skipWord_append (cs : List Char) (s : Input) : skipWord cs (cs ++ s) = .ok s := by
  induction cs with
  | nil => cases s <;> rfl
  | cons c cs ih => simp [skipWord, ih]

theorem passed_scalar {v : List Char} (h : v = c :: t) (plain : Frame.opened c = none)
    (skips : ∀ rest, Ends rest → skipScalar (v ++ rest) = .ok rest) : Passed v := by
  subst h
  exact fun s rest stack hs hr =>
    ⟨1, Nat.succ_pos _, (SkipStep.scalar hs plain (skips rest hr)).leads⟩

/-- A number is passed over as one. -/
theorem skipScalar_number (begins : c = '-' ∨ c.isDigit = true) (t : Input) :
    skipScalar (c :: t) = skipNumber (c :: t) := by
  have other {d : Char} (h : ¬ (d = '-' ∨ d.isDigit = true)) : c ≠ d := by
    rintro rfl
    exact h begins
  unfold skipScalar
  split
  · next eq => cases eq
  · next eq => exact absurd (List.cons.inj eq).1 (other (by decide))
  · next eq => exact absurd (List.cons.inj eq).1 (other (by decide))
  · next eq => exact absurd (List.cons.inj eq).1 (other (by decide))
  · next eq => exact absurd (List.cons.inj eq).1 (other (by decide))
  · next eq =>
    cases eq
    rw [if_pos begins]

theorem opened_number (begins : c = '-' ∨ c.isDigit = true) : Frame.opened c = none := by
  unfold Frame.opened
  split
  · exact absurd begins (by decide)
  · exact absurd begins (by decide)
  · rfl

/-! ### Lists and objects -/

/-- What stands between two separators of a list or an object, with the value in it and the blanks
after that. -/
structure Piece where
  text : List Char
  value : List Char
  after : Blank

/-- The value of a piece is reached where the piece stands in a frame, and is passed over. -/
structure Frame.Holds (frame : Frame) (x : Piece) : Prop where
  enters : ∀ rest, ∃ r, frame.enter (x.text ++ rest) = .ok r ∧
    skipSpace r = x.value ++ (x.after ++ rest)
  begins : ∀ rest, ∃ c t, skipSpace (x.text ++ rest) = c :: t ∧ c ≠ frame.closing
  passed : Passed x.value
  length : x.value.length ≤ x.text.length

/-- The pieces after the first one, with the end of the frame. -/
def Frame.later (frame : Frame) (xs : List Piece) (rest : Input) : Input :=
  xs.flatMap (fun x => ',' :: x.text) ++ frame.closing :: rest

theorem Frame.later_cons (frame : Frame) (x : Piece) (xs : List Piece) (rest : Input) :
    frame.later (x :: xs) rest = ',' :: (x.text ++ frame.later xs rest) := by
  simp [later]

theorem Frame.commaSeparated_later (frame : Frame) (x : Piece) (xs : List Piece) (rest : Input) :
    commaSeparated ((x :: xs).map (·.text)) ++ frame.closing :: rest =
      x.text ++ frame.later xs rest := by
  rw [List.map_cons, commaSeparated_cons, List.flatMap_map, List.append_assoc]
  rfl

theorem Frame.length_later (frame : Frame) (xs : List Piece) (rest : Input) :
    xs.length < (frame.later xs rest).length := by
  induction xs with
  | nil => exact Nat.succ_pos _
  | cons x xs ih =>
    rw [later_cons]
    simp only [List.length_cons, List.length_append]
    omega

theorem Frame.ends_later (frame : Frame) (xs : List Piece) (rest : Input) :
    Ends (frame.later xs rest) := by
  cases xs with
  | nil => cases frame <;> (rintro c ⟨⟩; decide)
  | cons x xs =>
    rw [later_cons]
    exact ends_comma _

theorem Frame.skipSpace_closing (frame : Frame) (s : Input) :
    skipSpace (frame.closing :: s) = frame.closing :: s := by
  cases frame <;> exact skipSpace_cons rfl s

/-- Blanks may be skipped before a frame is entered. -/
theorem Frame.enter_skipSpace (h : frame.enter s = .ok r) :
    ∃ r', frame.enter (skipSpace s) = .ok r' ∧ skipSpace r' = skipSpace r := by
  cases frame with
  | list =>
    cases h
    exact ⟨_, rfl, skipSpace_idem s⟩
  | object => exact ⟨r, by rw [enter, skipKey, skipSpace_idem]; exact h, rfl⟩

/-- The pieces after a value are passed over, and the end of their frame. -/
theorem leads_later {xs : List Piece} (holds : ∀ x ∈ xs, frame.Holds x)
    (hs : skipSpace s = skipSpace (frame.later xs rest)) :
    ∃ k ≤ (xs.flatMap fun x => ',' :: x.text).length + 1,
      Leads k .after (frame :: stack) s .after stack rest := by
  induction xs generalizing s with
  | nil =>
    have ended := hs.trans (frame.skipSpace_closing rest)
    exact ⟨1, Nat.le_refl _, (SkipStep.close ended).leads⟩
  | cons x xs ih =>
    obtain ⟨enters, -, passed, length⟩ := holds x (by simp)
    obtain ⟨r, entered, hr⟩ := enters (frame.later xs rest)
    rw [Frame.later_cons, skipSpace_cons rfl] at hs
    obtain ⟨k, hk, value⟩ := passed r _ (frame :: stack) hr (ends_blank _ (frame.ends_later xs rest))
    obtain ⟨l, hl, later⟩ := ih (fun y hy => holds y (by simp [hy])) (skipSpace_blank x.after _)
    refine ⟨1 + (k + l), ?_, (SkipStep.comma hs entered).leads.trans (value.trans later)⟩
    simp only [List.flatMap_cons, List.length_append, List.length_cons]
    omega

/-- The character that opens a frame. -/
def Frame.opening : Frame → Char
  | .list => '['
  | .object => '{'

/-- A list or an object of pieces is passed over. -/
theorem passed_frame (frame : Frame) (inside : Blank) (xs : List Piece)
    (holds : ∀ x ∈ xs, frame.Holds x) : Passed
      (frame.opening :: (inside ++ (commaSeparated (xs.map (·.text)) ++ [frame.closing]))) := by
  have opened : Frame.opened frame.opening = some frame := by cases frame <;> rfl
  intro s rest stack hs hr
  simp only [List.cons_append, List.append_assoc, List.nil_append] at hs
  cases xs with
  | nil =>
    have ended := (skipSpace_blank inside (frame.closing :: rest)).trans
      (frame.skipSpace_closing rest)
    exact ⟨1, Nat.succ_pos _, (SkipStep.empty hs opened ended).leads⟩
  | cons x xs =>
    obtain ⟨enters, begins, passed, length⟩ := holds x (by simp)
    rw [frame.commaSeparated_later] at hs
    obtain ⟨r, entered, value⟩ := enters (frame.later xs rest)
    obtain ⟨r', entered', same⟩ := Frame.enter_skipSpace entered
    obtain ⟨d, t, ht, more⟩ := begins (frame.later xs rest)
    rw [ht] at entered'
    obtain ⟨k, hk, first⟩ := passed r' _ (frame :: stack) (same.trans value)
      (ends_blank _ (frame.ends_later xs rest))
    obtain ⟨l, hl, later⟩ := leads_later (fun y hy => holds y (by simp [hy]))
      (skipSpace_blank x.after (frame.later xs rest))
    refine ⟨1 + (k + l), ?_, (SkipStep.enter hs opened ((skipSpace_blank inside _).trans ht) more
      entered').leads.trans (first.trans later)⟩
    rw [List.map_cons, commaSeparated_cons, List.flatMap_map]
    simp only [List.length_append, List.length_cons]
    omega

/-- An element of a list as a piece of it. -/
def Item.piece (i : Item) : Piece := ⟨i.text, i.value, i.after⟩

/-- A member of an object as a piece of it. -/
def Member.piece (m : Member) : Piece := ⟨m.text, m.value, m.after⟩

theorem Item.holds {i : Item} (h : IsValue i.value) (passed : Passed i.value) :
    Frame.list.Holds i.piece := by
  obtain ⟨c, t, hv, space, notEnd⟩ := h.eq_cons
  have begins (rest : Input) : skipSpace (i.text ++ rest) = i.value ++ (i.after ++ rest) := by
    rw [text, List.append_assoc, List.append_assoc, skipSpace_blank, hv, List.cons_append,
      skipSpace_cons space]
  exact {
    enters := fun rest => ⟨_, rfl, begins rest⟩
    begins := fun rest => ⟨c, _, (begins rest).trans (by rw [hv]; rfl), notEnd⟩
    passed
    length := by simp [piece, text]; omega }

/-- After a key and its colon the value is reached. -/
theorem Member.skipKey_text {m : Member} (content : IsContent m.key) (h : IsValue m.value)
    (rest : Input) : ∃ r, skipKey (m.text ++ rest) = .ok r ∧
      skipSpace r = m.value ++ (m.after ++ rest) := by
  obtain ⟨c, t, hv, space, -⟩ := h.eq_cons
  refine ⟨m.afterColon ++ (m.value ++ (m.after ++ rest)), ?_, ?_⟩
  · have quote := skipSpace_cons (c := '"') rfl
    have colon := skipSpace_cons (c := ':') rfl
    simp only [text, keyText, List.append_assoc, List.cons_append, List.nil_append, skipKey,
      skipSpace_blank, quote, skipText_content content, colon]
  · rw [skipSpace_blank, hv, List.cons_append, skipSpace_cons space]

theorem Member.holds {m : Member} (content : IsContent m.key) (h : IsValue m.value)
    (passed : Passed m.value) : Frame.object.Holds m.piece where
  enters := m.skipKey_text content h
  begins rest := by
    refine ⟨'"', m.key ++ '"' :: (m.afterKey ++ ':' ::
      (m.afterColon ++ (m.value ++ (m.after ++ rest)))), ?_, by decide⟩
    simp only [piece, text, keyText, List.append_assoc, List.cons_append, List.nil_append,
      skipSpace_blank]
    exact skipSpace_cons rfl _
  passed := passed
  length := by simp [piece, text]; omega

/-- Every value is passed over. -/
theorem IsValue.passed {v : List Char} (h : IsValue v) : Passed v := by
  induction h with
  | null => exact passed_scalar rfl rfl fun rest _ => skipWord_append nullRest rest
  | yes => exact passed_scalar rfl rfl fun rest _ => skipWord_append trueRest rest
  | no => exact passed_scalar rfl rfl fun rest _ => skipWord_append falseRest rest
  | number literal =>
    obtain ⟨c, t, rfl, begins⟩ := literal.eq_cons
    refine passed_scalar rfl (opened_number begins) fun rest hr => ?_
    rw [List.cons_append, skipScalar_number begins, skipNumber, ← List.cons_append,
      literal_text literal hr]
  | @text k content =>
    refine passed_scalar rfl rfl fun rest _ => ?_
    simp only [List.cons_append, List.append_assoc, List.nil_append, skipScalar]
    exact skipText_content content rest
  | @list inside items values ih =>
    have passed := passed_frame .list inside (items.map Item.piece) fun x hx => by
      obtain ⟨i, hi, rfl⟩ := List.mem_map.mp hx
      exact Item.holds (values i hi) (ih i hi)
    rwa [List.map_map] at passed
  | @object inside ms keys values ih =>
    have passed := passed_frame .object inside (ms.map Member.piece) fun x hx => by
      obtain ⟨m, hm, rfl⟩ := List.mem_map.mp hx
      exact Member.holds (keys m hm) (values m hm) (ih m hm)
    rwa [List.map_map] at passed

/-- The end of a value is found. -/
theorem skipValue_of_isValue {v : List Char} (h : IsValue v) (w : Blank) (hr : Ends rest) :
    skipValue (w ++ (v ++ rest)) = .ok rest := by
  obtain ⟨c, t, hv, space, -⟩ := h.eq_cons
  have begins : skipSpace (w ++ (v ++ rest)) = v ++ rest := by
    rw [skipSpace_blank, hv, List.cons_append, skipSpace_cons space]
  obtain ⟨k, hk, leads⟩ := h.passed _ rest [] begins hr
  refine leads.skipValue ?_
  simp only [List.length_append]
  omega

end Outbox.Json
