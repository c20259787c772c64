import Outbox.Http.Host
import Outbox.Proofs.Domain.Plain
import Outbox.Proofs.Text.Utf8

/-!
# Names that are no hosts

No host ends in a blank or a control character (`Host.ofText?_concat`): such a character is kept in
every form that the name of a host is brought into, and no name may hold it in the end.
-/

namespace Outbox.Http

namespace Percent

/-- Only a percent sign does not stand for itself. -/
theorem decode_cons {c : Char} (h : c ≠ '%') (s : List Char) :
    decode (c :: s) = String.utf8EncodeChar c ++ decode s := by
  match s with
  | [] => simp [decode]
  | [d] => simp only [decode]
  | a :: b :: s =>
    rw [decode]
    · exact nofun
    · exact fun d => nofun
    · exact fun _ _ _ sign => absurd sign h

/-- A character that is no digit is not part of the number of a byte. -/
theorem decode_concat {c : Char} (h : Text.hexValue c = none) (s : List Char) :
    decode (s ++ [c]) = decode s ++ String.utf8EncodeChar c := by
  fun_induction decode s with
  | case1 => rw [List.nil_append, List.nil_append, decode]
  | case2 d => rw [List.singleton_append, decode, decode]
  | case3 d e ih =>
    by_cases sign : d = '%'
    · have rest : decode [e, c] = decode [e] ++ String.utf8EncodeChar c := ih
      have undone : decode ['%', e, c] = String.utf8EncodeChar '%' ++ decode [e, c] := by
        rw [decode.eq_4, h]
        cases Text.hexValue e with
        | none => rfl
        | some n => rfl
      rw [sign, List.cons_append, List.singleton_append, undone, rest, List.append_assoc]
    · rw [List.cons_append, decode_cons sign, ih, List.append_assoc]
  | case4 a b s hi lo hb ha ih =>
    rw [List.cons_append, List.cons_append, List.cons_append, decode, ha, hb]
    simp only [ih, List.cons_append]
  | case5 a b s undone ih =>
    rw [List.cons_append, List.cons_append, List.cons_append, decode]
    split
    · next hi lo ha hb => exact (undone hi lo ha hb).elim
    · rw [← List.cons_append, ← List.cons_append, ih, List.append_assoc]
  | case6 d s some many sign ih =>
    have other : d ≠ '%' := by
      intro percent
      match s, some, many with
      | [], some, _ => exact some rfl
      | [e], _, many => exact many e rfl
      | a :: b :: s, _, _ => exact sign a b s percent rfl
    rw [List.cons_append, decode_cons other, ih, List.append_assoc]

end Percent

namespace Host

variable {c : Char}

/-- A blank and a control character. -/
theorem isForbidden_edge (h : c.toNat ≤ 0x20) : isForbidden c = true := by
  by_cases blank : c = ' '
  · rw [blank]
    rfl
  · have other : c.toNat ≠ 0x20 := fun value => blank (Char.toNat_inj.mp value)
    have outside : Percent.isOutside c = true := by
      have below : c.toNat < 0x20 := by omega
      simp [Percent.isOutside, below]
    simp [isForbidden, outside]

theorem hexValue_edge (h : c.toNat ≤ 0x20) : Text.hexValue c = none := by
  unfold Text.hexValue
  simp only
  rw [if_neg (by omega), if_neg (by omega), if_neg (by omega)]

theorem toLower_edge (h : c.toNat ≤ 0x20) : c.toLower = c := by
  unfold Char.toLower
  refine dif_neg fun upper => ?_
  have above : 65 ≤ c.toNat := UInt32.le_iff_toNat_le.mp upper.1
  omega

theorem isDigit_edge (h : c.toNat ≤ 0x20) : c.isDigit = false := by
  refine Bool.eq_false_iff.mpr fun digit => ?_
  simp only [Char.isDigit, Bool.and_eq_true, decide_eq_true_eq, ge_iff_le] at digit
  have above : 48 ≤ c.toNat := UInt32.le_iff_toNat_le.mp digit.1
  omega

/-- No host ends in a blank or a control character. -/
theorem ofText?_concat (h : c.toNat ≤ 0x20) (s : List Char) : ofText? (s ++ [c]) = none := by
  have plain : c.toNat < 0x80 := by omega
  unfold ofText?
  split
  · next rest whole =>
    split
    · next inner ends =>
      -- the bracket at the end would be the character
      have last := congrArg List.getLast? whole
      rw [List.getLast?_concat, ← List.reverse_reverse rest, ends, List.reverse_cons,
        ← List.cons_append, List.getLast?_concat] at last
      rw [Option.some.inj last] at h
      exact absurd h (by decide)
    · rfl
  · cases hd : Text.decode? (Percent.decode (s ++ [c])) with
    | none => rfl
    | some text =>
      rw [Percent.decode_concat (hexValue_edge h)] at hd
      obtain ⟨front, whole⟩ := Text.eq_concat_of_decode? plain hd
      cases hw : Domain.written? text.toList with
      | none => simp [hw]
      | some name =>
        rw [whole] at hw
        have inner : c ≠ '.' := by
          rintro rfl
          exact absurd h (by decide)
        have held : c ∈ name := Domain.mem_written plain inner (toLower_edge h) hw
        have refused : name.isEmpty = true ∨ name.any isForbidden = true :=
          .inr (List.any_eq_true.mpr ⟨c, held, isForbidden_edge h⟩)
        simp only [Option.bind_eq_bind, Option.bind_some, whole, hw, if_pos refused]

end Host

end Outbox.Http
