import Outbox.Text.Utf8

/-!
# Texts are read back from their bytes

The bytes of a text are read back as that text, and bytes that are read as a text are its bytes
(`decode?_eq_some_iff`). So the bytes that are refused are those of no text.
-/

namespace Outbox.Text

-- Powers are those of numbers, also where a monoid brings its own.
attribute [local instance (high)] instPowNat

/-! ### One character -/

section Character

variable {b : UInt8} {bs : Bytes}

@[simp] theorem tailLength_zero (lo hi : Nat) (bs : Bytes) : tailLength 0 lo hi bs = 0 := by
  cases bs <;> rfl

theorem tailLength_cons_eq_iff {need lo hi : Nat} :
    tailLength (need + 1) lo hi (b :: bs) = need + 1 ↔
      (lo ≤ b.toNat ∧ b.toNat ≤ hi) ∧ tailLength need 0x80 0xBF bs = need := by
  by_cases h : lo ≤ b.toNat ∧ b.toNat ≤ hi <;> simp [tailLength, h]

theorem tailLength_eq_succ {need lo hi : Nat} (h : tailLength (need + 1) lo hi bs = need + 1) :
    ∃ b rest, bs = b :: rest ∧ (lo ≤ b.toNat ∧ b.toNat ≤ hi) ∧
      tailLength need 0x80 0xBF rest = need := by
  cases bs with
  | nil => cases h
  | cons b rest => exact ⟨b, rest, rfl, tailLength_cons_eq_iff.mp h⟩

/-- The bytes that begin a character of more than one, with the range of the second byte: characters
that could be shorter, surrogates and numbers that are too large are left out. -/
theorem leading_cases (b : UInt8) :
    (0xC2 ≤ b.toNat ∧ b.toNat ≤ 0xDF ∧ leading b = some (2, 0x80, 0xBF)) ∨
    (∃ lo hi, 0xE0 ≤ b.toNat ∧ b.toNat ≤ 0xEF ∧ leading b = some (3, lo, hi) ∧
      (b.toNat = 0xE0 ∧ lo = 0xA0 ∨ b.toNat ≠ 0xE0 ∧ lo = 0x80) ∧
      (b.toNat = 0xED ∧ hi = 0x9F ∨ b.toNat ≠ 0xED ∧ hi = 0xBF)) ∨
    (∃ lo hi, 0xF0 ≤ b.toNat ∧ b.toNat ≤ 0xF4 ∧ leading b = some (4, lo, hi) ∧
      (b.toNat = 0xF0 ∧ lo = 0x90 ∨ b.toNat ≠ 0xF0 ∧ lo = 0x80) ∧
      (b.toNat = 0xF4 ∧ hi = 0x8F ∨ b.toNat ≠ 0xF4 ∧ hi = 0xBF)) ∨
    (b.toNat < 0xC2 ∨ 0xF4 < b.toNat) ∧ leading b = none := by
  unfold leading
  grind

variable {c : Char}

/-- A character of more than one byte is read if as many bytes follow as the first one announces. -/
theorem nextChar_eq_some_iff (h : 0x80 ≤ b.toNat) {k lo hi n : Nat}
    (hl : leading b = some (k + 1, lo, hi)) :
    nextChar b bs = (some c, n) ↔ tailLength k lo hi bs = k ∧ k = n ∧
      Char.ofNat (spelled (b.toNat % 2 ^ (6 - k)) (bs.take k)) = c := by
  simp only [nextChar, if_neg (Nat.not_lt.mpr h), hl, Nat.add_sub_cancel, Nat.add_right_cancel_iff,
    Nat.reduceSubDiff]
  by_cases whole : tailLength k lo hi bs = k
  · simp only [whole, if_true, Prod.mk.injEq, Option.some.injEq, true_and]
    exact and_comm
  · simp [whole]

theorem utf8EncodeChar_one (h : c.toNat ≤ 0x7F) :
    String.utf8EncodeChar c = [UInt8.ofNat c.toNat] := if_pos h

theorem utf8EncodeChar_two (h : 0x7F < c.toNat) (h' : c.toNat ≤ 0x7FF) :
    String.utf8EncodeChar c =
      [UInt8.ofNat (c.toNat / 64 % 32 + 0xC0), UInt8.ofNat (c.toNat % 64 + 0x80)] :=
  (if_neg (Nat.not_le.mpr h)).trans (if_pos h')

theorem utf8EncodeChar_three (h : 0x7FF < c.toNat) (h' : c.toNat ≤ 0xFFFF) :
    String.utf8EncodeChar c =
      [UInt8.ofNat (c.toNat / 4096 % 16 + 0xE0), UInt8.ofNat (c.toNat / 64 % 64 + 0x80),
        UInt8.ofNat (c.toNat % 64 + 0x80)] :=
  (if_neg (by change ¬ c.toNat ≤ _; omega)).trans
    ((if_neg (Nat.not_le.mpr h)).trans (if_pos h'))

theorem utf8EncodeChar_four (h : 0xFFFF < c.toNat) :
    String.utf8EncodeChar c =
      [UInt8.ofNat (c.toNat / 262144 % 8 + 0xF0), UInt8.ofNat (c.toNat / 4096 % 64 + 0x80),
        UInt8.ofNat (c.toNat / 64 % 64 + 0x80), UInt8.ofNat (c.toNat % 64 + 0x80)] :=
  (if_neg (by change ¬ c.toNat ≤ _; omega)).trans
    ((if_neg (by change ¬ c.toNat ≤ _; omega)).trans (if_neg (Nat.not_le.mpr h)))

theorem toNat_byte {n : Nat} (h : n < 256) : (UInt8.ofNat n).toNat = n := by
  rw [UInt8.toNat_ofNat', Nat.mod_eq_of_lt h]

theorem ofNat_toNat_eq {n : Nat} (h : n = c.toNat) : Char.ofNat n = c := by
  rw [h, Char.ofNat_toNat]

/-! A character is read from its bytes. Their values leave one case for the leading byte. -/

theorem nextChar_one (h : c.toNat ≤ 0x7F) (rest : Bytes) :
    nextChar (UInt8.ofNat c.toNat) rest = (some c, 0) := by
  have first := toNat_byte (show c.toNat < 256 by omega)
  rw [nextChar, first, if_pos (by omega), Char.ofNat_toNat]

theorem nextChar_two (h : 0x7F < c.toNat) (h' : c.toNat ≤ 0x7FF) (rest : Bytes) :
    nextChar (UInt8.ofNat (c.toNat / 64 % 32 + 0xC0))
      (UInt8.ofNat (c.toNat % 64 + 0x80) :: rest) = (some c, 1) := by
  have first := toNat_byte (show c.toNat / 64 % 32 + 0xC0 < 256 by omega)
  have last := toNat_byte (show c.toNat % 64 + 0x80 < 256 by omega)
  generalize UInt8.ofNat (c.toNat / 64 % 32 + 0xC0) = b at first
  rcases leading_cases b with ⟨-, -, hl⟩ | ⟨lo, hi, high, -⟩ | ⟨lo, hi, high, -⟩ | ⟨none, -⟩
  · refine (nextChar_eq_some_iff (by omega) hl).mpr ⟨?_, rfl, ofNat_toNat_eq ?_⟩
    · exact tailLength_cons_eq_iff.mpr ⟨by omega, tailLength_zero ..⟩
    · simp [spelled]
      omega
  all_goals omega

theorem nextChar_three (h : 0x7FF < c.toNat) (h' : c.toNat ≤ 0xFFFF) (rest : Bytes) :
    nextChar (UInt8.ofNat (c.toNat / 4096 % 16 + 0xE0))
      (UInt8.ofNat (c.toNat / 64 % 64 + 0x80) :: UInt8.ofNat (c.toNat % 64 + 0x80) :: rest) =
        (some c, 2) := by
  have valid : c.toNat < 0xD800 ∨ 0xDFFF < c.toNat ∧ c.toNat < 0x110000 := c.valid
  have first := toNat_byte (show c.toNat / 4096 % 16 + 0xE0 < 256 by omega)
  have second := toNat_byte (show c.toNat / 64 % 64 + 0x80 < 256 by omega)
  have last := toNat_byte (show c.toNat % 64 + 0x80 < 256 by omega)
  generalize UInt8.ofNat (c.toNat / 4096 % 16 + 0xE0) = b at first
  rcases leading_cases b with ⟨low, low', -⟩ | ⟨lo, hi, -, -, hl, hlo, hhi⟩ |
    ⟨lo, hi, high, -⟩ | ⟨none, -⟩
  · omega
  · refine (nextChar_eq_some_iff (by omega) hl).mpr ⟨?_, rfl, ofNat_toNat_eq ?_⟩
    · exact tailLength_cons_eq_iff.mpr
        ⟨by omega, tailLength_cons_eq_iff.mpr ⟨by omega, tailLength_zero ..⟩⟩
    · simp [spelled]
      omega
  all_goals omega

theorem nextChar_four (h : 0xFFFF < c.toNat) (rest : Bytes) :
    nextChar (UInt8.ofNat (c.toNat / 262144 % 8 + 0xF0))
      (UInt8.ofNat (c.toNat / 4096 % 64 + 0x80) :: UInt8.ofNat (c.toNat / 64 % 64 + 0x80) ::
        UInt8.ofNat (c.toNat % 64 + 0x80) :: rest) = (some c, 3) := by
  have valid : c.toNat < 0xD800 ∨ 0xDFFF < c.toNat ∧ c.toNat < 0x110000 := c.valid
  have first := toNat_byte (show c.toNat / 262144 % 8 + 0xF0 < 256 by omega)
  have second := toNat_byte (show c.toNat / 4096 % 64 + 0x80 < 256 by omega)
  have third := toNat_byte (show c.toNat / 64 % 64 + 0x80 < 256 by omega)
  have last := toNat_byte (show c.toNat % 64 + 0x80 < 256 by omega)
  generalize UInt8.ofNat (c.toNat / 262144 % 8 + 0xF0) = b at first
  rcases leading_cases b with ⟨low, low', -⟩ | ⟨lo, hi, low, low', -⟩ |
    ⟨lo, hi, -, -, hl, hlo, hhi⟩ | ⟨none, -⟩
  · omega
  · omega
  · refine (nextChar_eq_some_iff (by omega) hl).mpr ⟨?_, rfl, ofNat_toNat_eq ?_⟩
    · exact tailLength_cons_eq_iff.mpr ⟨by omega, tailLength_cons_eq_iff.mpr
        ⟨by omega, tailLength_cons_eq_iff.mpr ⟨by omega, tailLength_zero ..⟩⟩⟩
    · simp [spelled]
      omega
  · omega

theorem nextChar_utf8EncodeChar (c : Char) (rest : Bytes) :
    ∃ b tail, String.utf8EncodeChar c = b :: tail ∧
      nextChar b (tail ++ rest) = (some c, tail.length) := by
  by_cases one : c.toNat ≤ 0x7F
  · exact ⟨_, _, utf8EncodeChar_one one, nextChar_one one rest⟩
  by_cases two : c.toNat ≤ 0x7FF
  · have low : 0x7F < c.toNat := Nat.not_le.mp one
    exact ⟨_, _, utf8EncodeChar_two low two, nextChar_two low two rest⟩
  have low : 0x7FF < c.toNat := Nat.not_le.mp two
  by_cases three : c.toNat ≤ 0xFFFF
  · exact ⟨_, _, utf8EncodeChar_three low three, nextChar_three low three rest⟩
  · have low : 0xFFFF < c.toNat := Nat.not_le.mp three
    exact ⟨_, _, utf8EncodeChar_four low, nextChar_four low rest⟩

theorem ofNat_eq {n : Nat} (h : n = b.toNat) : UInt8.ofNat n = b := by
  rw [h, UInt8.ofNat_toNat]

theorem toNat_char {n : Nat} (hc : Char.ofNat n = c)
    (h : n < 0xD800 ∨ 0xDFFF < n ∧ n < 0x110000) : c.toNat = n := by
  rw [← hc, Char.ofNat, dif_pos (show n.isValidChar from h)]
  rfl

/-- Only from its bytes is a character read. -/
theorem utf8EncodeChar_of_nextChar {k : Nat} (h : nextChar b bs = (some c, k)) :
    String.utf8EncodeChar c = b :: bs.take k ∧ k ≤ bs.length := by
  by_cases one : b.toNat < 0x80
  · rw [nextChar, if_pos one] at h
    obtain ⟨hc, rfl⟩ := Prod.mk.inj h
    have value : c.toNat = b.toNat := toNat_char (Option.some.inj hc) (by omega)
    rw [utf8EncodeChar_one (by omega), ofNat_eq value]
    exact ⟨rfl, Nat.zero_le _⟩
  have above : 0x80 ≤ b.toNat := Nat.not_lt.mp one
  rcases leading_cases b with ⟨hb, hb', hl⟩ | ⟨lo, hi, hb, hb', hl, hlo, hhi⟩ |
    ⟨lo, hi, hb, hb', hl, hlo, hhi⟩ | ⟨-, hl⟩
  · obtain ⟨whole, rfl, hc⟩ := (nextChar_eq_some_iff above hl).mp h
    obtain ⟨b₂, rest, rfl, h₂, -⟩ := tailLength_eq_succ whole
    have value : c.toNat = b.toNat % 32 * 64 + b₂.toNat % 64 := toNat_char hc (by omega)
    rw [utf8EncodeChar_two (by omega) (by omega), ofNat_eq (b := b) (by omega),
      ofNat_eq (b := b₂) (by omega)]
    exact ⟨rfl, by simp⟩
  · obtain ⟨whole, rfl, hc⟩ := (nextChar_eq_some_iff above hl).mp h
    obtain ⟨b₂, rest, rfl, h₂, whole⟩ := tailLength_eq_succ whole
    obtain ⟨b₃, rest, rfl, h₃, -⟩ := tailLength_eq_succ whole
    have value : c.toNat = (b.toNat % 16 * 64 + b₂.toNat % 64) * 64 + b₃.toNat % 64 :=
      toNat_char hc (by omega)
    rw [utf8EncodeChar_three (by omega) (by omega), ofNat_eq (b := b) (by omega),
      ofNat_eq (b := b₂) (by omega), ofNat_eq (b := b₃) (by omega)]
    exact ⟨rfl, by simp⟩
  · obtain ⟨whole, rfl, hc⟩ := (nextChar_eq_some_iff above hl).mp h
    obtain ⟨b₂, rest, rfl, h₂, whole⟩ := tailLength_eq_succ whole
    obtain ⟨b₃, rest, rfl, h₃, whole⟩ := tailLength_eq_succ whole
    obtain ⟨b₄, rest, rfl, h₄, -⟩ := tailLength_eq_succ whole
    have value : c.toNat =
        ((b.toNat % 8 * 64 + b₂.toNat % 64) * 64 + b₃.toNat % 64) * 64 + b₄.toNat % 64 :=
      toNat_char hc (by omega)
    rw [utf8EncodeChar_four (by omega), ofNat_eq (b := b) (by omega),
      ofNat_eq (b := b₂) (by omega), ofNat_eq (b := b₃) (by omega), ofNat_eq (b := b₄) (by omega)]
    exact ⟨rfl, by simp⟩
  · simp [nextChar, one, hl] at h

end Character

/-! ### Texts -/

theorem characters_flatMap (cs : List Char) :
    characters (cs.flatMap String.utf8EncodeChar) = cs.map some := by
  induction cs with
  | nil => rw [List.flatMap_nil, characters, List.map_nil]
  | cons c cs ih =>
    obtain ⟨b, tail, he, hn⟩ := nextChar_utf8EncodeChar c (cs.flatMap String.utf8EncodeChar)
    rw [List.flatMap_cons, he, List.cons_append, characters, hn, List.drop_left, ih, List.map_cons]

theorem flatMap_of_characters {bs : Bytes} {cs : List Char} (h : characters bs = cs.map some) :
    cs.flatMap String.utf8EncodeChar = bs := by
  induction cs generalizing bs with
  | nil =>
    cases bs with
    | nil => rfl
    | cons b bs =>
      rw [characters] at h
      cases h
  | cons c cs ih =>
    cases bs with
    | nil =>
      rw [characters] at h
      cases h
    | cons b bs =>
      rw [characters, List.map_cons, List.cons.injEq] at h
      have first : nextChar b bs = (some c, (nextChar b bs).2) := Prod.ext h.1 rfl
      rw [List.flatMap_cons, (utf8EncodeChar_of_nextChar first).1, ih h.2, List.cons_append,
        List.take_append_drop]

theorem mapM_id_eq_some_iff {α : Type} {values : List (Option α)} {as : List α} :
    values.mapM id = some as ↔ values = as.map some := by
  induction values generalizing as with
  | nil => cases as <;> simp
  | cons value values ih =>
    cases value with
    | none => cases as <;> simp
    | some a =>
      simp only [List.mapM_cons, id_eq, Option.pure_def, Option.bind_eq_bind, Option.bind_some,
        Option.bind_eq_some_iff, Option.some.injEq, ih]
      constructor
      · rintro ⟨as, rfl, rfl⟩
        rfl
      · intro h
        obtain ⟨a', as', rfl, ha, rfl⟩ := List.map_eq_cons_iff.mp h.symm
        exact ⟨as', rfl, by rw [Option.some.inj ha]⟩

/-- Bytes are read as a text if and only if they are its bytes. -/
theorem decode?_eq_some_iff {bs : Bytes} {s : String} : decode? bs = some s ↔ encode s = bs := by
  rw [decode?, encode, Option.map_eq_some_iff]
  constructor
  · rintro ⟨cs, h, rfl⟩
    rw [String.toList_ofList]
    exact flatMap_of_characters (mapM_id_eq_some_iff.mp h)
  · rintro rfl
    exact ⟨s.toList, mapM_id_eq_some_iff.mpr (characters_flatMap _), String.ofList_toList⟩

/-- The bytes of a character end in that of a plain character only if it is this one. -/
theorem eq_of_getLast?_utf8EncodeChar {c d : Char} (plain : c.toNat < 0x80)
    (h : (String.utf8EncodeChar d).getLast? = some (UInt8.ofNat c.toNat)) : d = c := by
  have small : (UInt8.ofNat c.toNat).toNat = c.toNat := toNat_byte (by omega)
  have last : (UInt8.ofNat (d.toNat % 64 + 0x80)).toNat = d.toNat % 64 + 0x80 :=
    toNat_byte (by omega)
  by_cases one : d.toNat ≤ 0x7F
  · rw [utf8EncodeChar_one one] at h
    have bytes : UInt8.ofNat d.toNat = UInt8.ofNat c.toNat := Option.some.inj h
    have same : d.toNat = c.toNat := by
      rw [← small, ← bytes, toNat_byte (by omega)]
    exact Char.toNat_inj.mp same
  -- the other characters end in a byte that continues one
  · have above : (String.utf8EncodeChar d).getLast? = some (UInt8.ofNat (d.toNat % 64 + 0x80)) := by
      by_cases two : d.toNat ≤ 0x7FF
      · rw [utf8EncodeChar_two (by omega) two]
        rfl
      by_cases three : d.toNat ≤ 0xFFFF
      · rw [utf8EncodeChar_three (by omega) three]
        rfl
      · rw [utf8EncodeChar_four (by omega)]
        rfl
    rw [above] at h
    have bytes := congrArg UInt8.toNat (Option.some.inj h)
    omega

/-- A text whose bytes end in that of a plain character ends in this character. -/
theorem eq_concat_of_decode? {bs : Bytes} {c : Char} {s : String} (plain : c.toNat < 0x80)
    (h : decode? (bs ++ String.utf8EncodeChar c) = some s) : ∃ front, s.toList = front ++ [c] := by
  rw [decode?_eq_some_iff, encode, utf8EncodeChar_one (by omega)] at h
  rcases List.eq_nil_or_concat s.toList with none | ⟨front, d, whole⟩
  · rw [none] at h
    simp at h
  · rw [whole, List.concat_eq_append, List.flatMap_append, List.flatMap_singleton] at h
    have last := congrArg List.getLast? h
    have some : String.utf8EncodeChar d ≠ [] := by
      obtain ⟨b, tail, hd, -⟩ := nextChar_utf8EncodeChar d []
      rw [hd]
      exact List.cons_ne_nil b tail
    rw [List.getLast?_append, List.getLast?_concat, List.getLast?_eq_some_getLast some,
      Option.some_or, ← List.getLast?_eq_some_getLast some] at last
    rw [whole, List.concat_eq_append, eq_of_getLast?_utf8EncodeChar plain last]
    exact ⟨front, rfl⟩

/-- Sequences of bytes are all texts, or one of them is the first that is none. -/
theorem encoded_cases (lines : List Bytes) :
    (∃ texts : List String, lines = texts.map encode) ∨
      ∃ (texts : List String) (line : Bytes) (rest : List Bytes),
        lines = texts.map encode ++ line :: rest ∧ decode? line = none := by
  induction lines with
  | nil => exact .inl ⟨[], rfl⟩
  | cons line lines ih =>
    cases h : decode? line with
    | none => exact .inr ⟨[], line, lines, rfl, h⟩
    | some text =>
      obtain rfl := decode?_eq_some_iff.mp h
      rcases ih with ⟨texts, rfl⟩ | ⟨texts, line, rest, rfl, hn⟩
      · exact .inl ⟨text :: texts, rfl⟩
      · exact .inr ⟨text :: texts, line, rest, rfl, hn⟩

end Outbox.Text
