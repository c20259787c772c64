import Mathlib.Tactic.SplitIfs
import Outbox.Proofs.Json.Grammar

/-!
# Strings in any spelling

A reader takes a string in every spelling of its characters (`textBody_spells`), and of what may
stand between quotes it takes nothing else (`textBody_content`). What is passed over ends at the same
quote (`skipText_content`, `skipText_of_textBody`).
-/

namespace Outbox.Json

/-! ### Escapes -/

theorem hexValue_of_isHexDigit {v : Nat} {c : Char} (h : IsHexDigit v c) :
    Text.hexValue c = some v := by
  have lower : ∀ v : Fin 16, Text.hexValue ("0123456789abcdef".toList[v]) = some v.val := by decide
  have upper : ∀ v : Fin 16, Text.hexValue ("0123456789ABCDEF".toList[v]) = some v.val := by decide
  rcases h with h | h
  · obtain ⟨small, rfl⟩ := List.getElem?_eq_some_iff.mp h
    exact lower ⟨v, small⟩
  · obtain ⟨small, rfl⟩ := List.getElem?_eq_some_iff.mp h
    exact upper ⟨v, small⟩

theorem hexQuad_quad {n : Nat} {ds : List Char} (quad : Quad n ds) (s : Input) :
    hexQuad (ds ++ s) = .ok (n, s) := by
  cases quad with
  | digits first second third fourth =>
    simp [hexQuad, Text.numberOfHex?, hexValue_of_isHexDigit first, hexValue_of_isHexDigit second,
      hexValue_of_isHexDigit third, hexValue_of_isHexDigit fourth]

theorem shortEscape_of_mem {e c : Char} (known : (e, c) ∈ shortEscapes) :
    shortEscape e = some c := by
  have all : ∀ x ∈ shortEscapes, shortEscape x.1 = some x.2 := by decide
  exact all _ known

/-- A short escape is none of a number. -/
theorem ne_u {e c : Char} (known : (e, c) ∈ shortEscapes) : e ≠ 'u' := by
  have none : ∀ x ∈ shortEscapes, x.1 ≠ 'u' := by decide
  exact none _ known

theorem escape_short {e c : Char} (known : (e, c) ∈ shortEscapes) (s : Input) :
    escape (e :: s) = .ok (c, s) := by
  unfold escape
  split
  · next eq => cases eq
  · next eq => exact absurd (List.cons.inj eq).1 (ne_u known)
  · next eq =>
    cases eq
    rw [shortEscape_of_mem known]

theorem escape_unit {n : Nat} {ds : List Char} (quad : Quad n ds) (s : Input) :
    escape ('u' :: (ds ++ s)) =
      if IsLow n then .error .loneSurrogate
      else if IsHigh n then secondHalf n s else .ok (Char.ofNat n, s) := by
  simp only [escape, hexQuad_quad quad]
  rfl

theorem secondHalf_unit {n m : Nat} {ds : List Char} (quad : Quad m ds) (s : Input) :
    secondHalf n ('\\' :: 'u' :: (ds ++ s)) =
      if IsLow m then .ok (Char.ofNat (0x10000 + (n - 0xD800) * 0x400 + (m - 0xDC00)), s)
      else .error .loneSurrogate := by
  simp only [secondHalf, hexQuad_quad quad]
  rfl

/-! ### What is read -/

/-- One character is taken, however it is written. -/
theorem textLoop_char {c : Char} {t : List Char} (h : SpellsChar c t) (n : Nat) (acc : List Char)
    (s : Input) : textLoop (n + 1) acc (t ++ s) = textLoop n (c :: acc) s := by
  cases h with
  | plain plain =>
    simp [textLoop, plain.not_quote, plain.not_backslash, Nat.not_lt.mpr plain.visible]
  | short known => simp only [List.cons_append, List.nil_append, textLoop, escape_short known]
  | unit quad high low =>
    simp only [List.cons_append, textLoop, escape_unit quad, if_neg high, if_neg low]
  | pair first high second low =>
    have notLow : ¬ IsLow _ := fun h =>
      absurd high.2 (Nat.not_le.mpr (Nat.lt_of_lt_of_le (by decide) h.1))
    simp only [List.cons_append, List.append_assoc, textLoop, escape_unit first, if_neg notLow,
      if_pos high, secondHalf_unit second, if_pos low]

theorem SpellsChar.ne_nil {c : Char} {t : List Char} (h : SpellsChar c t) : t ≠ [] := by
  cases h <;> exact List.cons_ne_nil _ _

/-- The characters are taken up to the closing quote. -/
theorem textLoop_spells {cs k : List Char} (h : SpellsChars cs k) {n : Nat} (enough : k.length < n)
    (acc : List Char) (s : Input) :
    textLoop n acc (k ++ '"' :: s) = .ok (String.ofList (acc.reverse ++ cs), s) := by
  induction h generalizing n acc with
  | nil =>
    obtain ⟨n, rfl⟩ := Nat.exists_eq_succ_of_ne_zero (Nat.ne_of_gt enough)
    simp [textLoop]
  | cons first more ih =>
    have some := List.length_pos_iff.mpr first.ne_nil
    rw [List.length_append] at enough
    obtain ⟨n, rfl⟩ := Nat.exists_eq_succ_of_ne_zero (show n ≠ 0 by omega)
    rw [List.append_assoc, textLoop_char first, ih (by omega)]
    simp

theorem textBody_spells {s : String} {k : List Char} (h : SpellsText s k) (rest : Input) :
    textBody (k ++ '"' :: rest) = .ok (s, rest) := by
  have enough : k.length < (k ++ '"' :: rest).length + 1 := by
    rw [List.length_append]
    omega
  rw [textBody, textLoop_spells h enough]
  simp

/-- What is written spells one string. -/
theorem SpellsText.unique {s s' : String} {k : List Char} (h : SpellsText s k)
    (h' : SpellsText s' k) : s = s' := by
  have both := (textBody_spells h []).symm.trans (textBody_spells h' [])
  exact congrArg Prod.fst (Except.ok.inj both)

/-- The second half of a pair is a low surrogate. -/
theorem secondHalf_cases {n : Nat} {s r : Input} {c : Char} (h : secondHalf n s = .ok (c, r)) :
    ∃ m t, s = '\\' :: 'u' :: t ∧ hexQuad t = .ok (m, r) ∧ IsLow m := by
  unfold secondHalf at h
  split at h
  · cases h
  · cases h
  · next t =>
    rcases ht : hexQuad t with e | ⟨m, s'⟩
    · simp [ht] at h
    · simp only [ht] at h
      split_ifs at h with low
      exact ⟨m, t, rfl, (Prod.mk.inj (Except.ok.inj h)).2 ▸ ht, low⟩
  · cases h

/-- After the first half of a pair the second one has to follow. -/
theorem secondHalf_content {n : Nat} {k : List Char} (content : IsContent k) {s r : Input}
    {c : Char} (h : secondHalf n (k ++ '"' :: s) = .ok (c, r)) :
    ∃ m es k', Quad m es ∧ IsLow m ∧ IsContent k' ∧ k = '\\' :: 'u' :: (es ++ k') := by
  obtain ⟨m, t, begins, read, low⟩ := secondHalf_cases h
  cases content with
  | nil => cases begins
  | plain plain more => exact absurd (List.cons.inj begins).1 plain.not_backslash
  | short known more => exact absurd (List.cons.inj (List.cons.inj begins).2).1 (ne_u known)
  | @unit m' ds k' quad more =>
    simp only [List.cons_append, List.append_assoc, List.cons.injEq, true_and] at begins
    rw [← begins, hexQuad_quad quad] at read
    cases read
    exact ⟨_, _, _, quad, low, more, rfl⟩

/-- Of what may stand between quotes the loop takes only what spells a string, and all of it. -/
theorem textLoop_content {n : Nat} {k acc : List Char} (content : IsContent k) {s r : Input}
    {a : String} (h : textLoop n acc (k ++ '"' :: s) = .ok (a, r)) :
    r = s ∧ ∃ cs, SpellsChars cs k ∧ a = String.ofList (acc.reverse ++ cs) := by
  induction n generalizing k acc with
  | zero => cases h
  | succ n ih =>
    -- A step that takes a character leaves content again.
    have step {c : Char} {t k' : List Char} (one : SpellsChar c t) (content : IsContent k')
        (h : textLoop (n + 1) acc (t ++ k' ++ '"' :: s) = .ok (a, r)) :
        r = s ∧ ∃ cs, SpellsChars cs (t ++ k') ∧ a = String.ofList (acc.reverse ++ cs) := by
      rw [List.append_assoc, textLoop_char one] at h
      obtain ⟨rest, cs, spells, eq⟩ := ih content h
      exact ⟨rest, c :: cs, .cons one spells, by simp [eq]⟩
    cases content with
    | nil =>
      cases h
      exact ⟨rfl, [], .nil, by simp⟩
    | plain plain more => exact step (.plain plain) more h
    | short known more => exact step (.short known) more h
    | @unit m ds k' quad more =>
      by_cases low : IsLow m
      · simp [textLoop, escape_unit quad, low] at h
      · by_cases high : IsHigh m
        · have half := h
          simp only [List.cons_append, List.append_assoc, textLoop, escape_unit quad, if_neg low,
            if_pos high] at half
          cases hp : secondHalf m (k' ++ '"' :: s) with
          | error e =>
            rw [hp] at half
            cases half
          | ok found =>
            obtain ⟨m', es, k'', quad', low', more', rfl⟩ := secondHalf_content more hp
            have both := step (.pair quad high quad' low') more' (by simpa using h)
            simpa using both
        · exact step (.unit quad high low) more h

theorem textBody_content {k : List Char} (content : IsContent k) {s r : Input} {a : String}
    (h : textBody (k ++ '"' :: s) = .ok (a, r)) : r = s ∧ SpellsText a k := by
  obtain ⟨rest, cs, spells, rfl⟩ := textLoop_content content h
  refine ⟨rest, ?_⟩
  rwa [SpellsText, List.reverse_nil, List.nil_append, String.toList_ofList]

/-! ### What is passed over -/

theorem skipEscape_short {e c : Char} (known : shortEscape e = some c) (s : Input) :
    skipEscape (e :: s) = .ok s := by
  unfold skipEscape
  split
  · next eq => cases eq
  · next eq => cases (List.cons.inj eq).1 ▸ known
  · next eq =>
    cases eq
    rw [if_pos (Option.isSome_of_eq_some known)]

theorem skipTextLoop_content {n : Nat} {k : List Char} (content : IsContent k)
    (enough : k.length < n) (s : Input) : skipTextLoop n (k ++ '"' :: s) = .ok s := by
  induction content generalizing n with
  | nil =>
    obtain ⟨n, rfl⟩ := Nat.exists_eq_succ_of_ne_zero (Nat.ne_of_gt enough)
    rfl
  | plain plain more ih =>
    rw [List.length_cons] at enough
    obtain ⟨n, rfl⟩ := Nat.exists_eq_succ_of_ne_zero (show n ≠ 0 by omega)
    simp [skipTextLoop, plain.not_quote, plain.not_backslash, Nat.not_lt.mpr plain.visible,
      ih (show _ < n by omega)]
  | short known more ih =>
    have skipped := skipEscape_short (shortEscape_of_mem known)
    simp only [List.length_cons] at enough
    obtain ⟨n, rfl⟩ := Nat.exists_eq_succ_of_ne_zero (show n ≠ 0 by omega)
    simp only [List.cons_append, skipTextLoop, skipped, ih (show _ < n by omega)]
  | unit quad more ih =>
    simp only [List.length_cons, List.length_append] at enough
    obtain ⟨n, rfl⟩ := Nat.exists_eq_succ_of_ne_zero (show n ≠ 0 by omega)
    simp only [List.cons_append, List.append_assoc, skipTextLoop, skipEscape, hexQuad_quad quad,
      Except.map, ih (show _ < n by omega)]

theorem skipText_content {k : List Char} (content : IsContent k) (s : Input) :
    skipText (k ++ '"' :: s) = .ok s :=
  skipTextLoop_content content (by rw [List.length_append]; omega) s

theorem hexQuad_length {s r : Input} {n : Nat} (h : hexQuad s = .ok (n, r)) :
    s.length = r.length + 4 := by
  unfold hexQuad at h
  split at h
  · split at h
    · cases h
      rfl
    · cases h
  · split at h <;> cases h

/-- The escapes that stand for a character. -/
theorem escape_cases {s r : Input} {c : Char} (h : escape s = .ok (c, r)) :
    (∃ e, shortEscape e = some c ∧ s = e :: r) ∨
    (∃ n t, s = 'u' :: t ∧ hexQuad t = .ok (n, r)) ∨
    ∃ n m t t', s = 'u' :: t ∧ hexQuad t = .ok (n, '\\' :: 'u' :: t') ∧ hexQuad t' = .ok (m, r) := by
  unfold escape at h
  split at h
  · cases h
  · next t =>
    rcases ht : hexQuad t with e | ⟨n, s'⟩
    · simp [ht] at h
    · simp only [ht] at h
      split_ifs at h with low high
      · obtain ⟨m, t', rfl, ht', -⟩ := secondHalf_cases h
        exact .inr (.inr ⟨n, m, t, t', rfl, ht, ht'⟩)
      · cases h
        exact .inr (.inl ⟨n, t, rfl, ht⟩)
  · next e t _ =>
    cases he : shortEscape e with
    | none => simp [he] at h
    | some d =>
      rw [he] at h
      cases h
      exact .inl ⟨e, he, rfl⟩

/-- Where a string is read, one is passed over. -/
theorem skipTextLoop_of_textLoop {n m : Nat} {acc : List Char} {s r : Input} {a : String}
    (h : textLoop n acc s = .ok (a, r)) (enough : s.length < m) : skipTextLoop m s = .ok r := by
  induction n generalizing acc s m with
  | zero => cases h
  | succ n ih =>
    obtain ⟨m, rfl⟩ := Nat.exists_eq_succ_of_ne_zero (Nat.ne_of_gt (Nat.zero_lt_of_lt enough))
    cases s with
    | nil => cases h
    | cons c s =>
      rw [List.length_cons] at enough
      by_cases quote : c = '"'
      · subst quote
        cases h
        rfl
      · by_cases backslash : c = '\\'
        · subst backslash
          cases he : escape s with
          | error e => simp [textLoop, he] at h
          | ok found =>
            obtain ⟨d, s'⟩ := found
            simp only [textLoop, he] at h
            rcases escape_cases he with ⟨e, hs, rfl⟩ | ⟨k, t, rfl, hq⟩ | ⟨k, l, t, t', rfl, hq, hq'⟩
            · rw [List.length_cons] at enough
              simp only [skipTextLoop, skipEscape_short hs,
                ih h (show _ < m by omega)]
            · have := hexQuad_length hq
              rw [List.length_cons] at enough
              simp only [skipTextLoop, skipEscape, hq, Except.map, ih h (show _ < m by omega)]
            · have := hexQuad_length hq
              have := hexQuad_length hq'
              simp only [List.length_cons] at *
              obtain ⟨m, rfl⟩ := Nat.exists_eq_succ_of_ne_zero (show m ≠ 0 by omega)
              simp only [skipTextLoop, skipEscape, hq, hq', Except.map, ih h (show _ < m by omega)]
        · simp only [textLoop] at h
          simp only [skipTextLoop]
          split_ifs at h ⊢ with control
          exact ih h (show _ < m by omega)

theorem skipText_of_textBody {s r : Input} {a : String} (h : textBody s = .ok (a, r)) :
    skipText s = .ok r :=
  skipTextLoop_of_textLoop h (Nat.lt_succ_self _)

end Outbox.Json
