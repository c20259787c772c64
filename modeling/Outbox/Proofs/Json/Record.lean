import Outbox.Json.Shape
import Outbox.Proofs.Json.Text

/-!
# Records that are read back

An object that has, in their order, all fields of a shape is read back if each of its values is
(`reads_printObject`).
-/

namespace Outbox.Json

variable {ρ : Type}

/-- What is written for a field, and what reading it puts into a record. -/
structure Filled (ρ : Type) where
  field : Field ρ
  value : List Char
  put : ρ → ρ

/-- The value is read back. -/
def Filled.Back (x : Filled ρ) : Prop := Reads x.field.read x.value x.put

/-- The member of an object for a field. -/
def Filled.member (x : Filled ρ) : String × List Char := (x.field.name, x.value)

/-- The record after the fields were put into it, one after the other. -/
def Filled.record (xs : List (Filled ρ)) (r : ρ) : ρ := xs.foldl (fun r x => x.put r) r

namespace Filled

variable {α : Type} {name : String} {read : Reader α}

/-- A field that is needed, with the text of its value. -/
def needed (name : String) (read : Reader α) (put : α → ρ → ρ) (value : List Char) (a : α) :
    Filled ρ :=
  ⟨.needed name read put, value, put a⟩

/-- A field that may be `null`, with the text of its value. -/
def nullable (name : String) (read : Reader α) (put : Option α → ρ → ρ) (value : List Char)
    (a? : Option α) : Filled ρ :=
  ⟨.nullable name read put, value, put a?⟩

theorem back_needed {put : α → ρ → ρ} {value : List Char} {a : α} (h : Reads read value a) :
    (needed name read put value a).Back :=
  h.map put

theorem back_nullable {put : Option α → ρ → ρ} {value : List Char} {a? : Option α}
    (h : Reads (optional read) value a?) : (nullable name read put value a?).Back :=
  h.map put

end Filled

theorem ends_comma (s : Input) : Ends (',' :: s) := by
  rintro c ⟨⟩
  decide

theorem ends_brace (s : Input) : Ends ('}' :: s) := by
  rintro c ⟨⟩
  decide

/-- The members of an object after its first one, with what follows the object. -/
def later (members : List (String × List Char)) (rest : Input) : Input :=
  match members with
  | [] => '}' :: rest
  | m :: members => ',' :: (printMember m.1 m.2 ++ later members rest)

theorem ends_later (members : List (String × List Char)) (rest : Input) :
    Ends (later members rest) := by
  cases members with
  | nil => exact ends_brace rest
  | cons m members => exact ends_comma _

theorem commaSeparated_cons (part : List Char) (parts : List (List Char)) :
    commaSeparated (part :: parts) = part ++ parts.flatMap (',' :: ·) := by
  induction parts generalizing part with
  | nil => simp [commaSeparated]
  | cons next parts ih => simp [commaSeparated, ih]

theorem later_eq (members : List (String × List Char)) (rest : Input) :
    later members rest =
      (members.map fun m => printMember m.1 m.2).flatMap (',' :: ·) ++ '}' :: rest := by
  induction members with
  | nil => rfl
  | cons m members ih => simp [later, ih]

theorem printObject_append (m : String × List Char) (members : List (String × List Char))
    (rest : Input) : printObject (m :: members) ++ rest =
      '{' :: (printMember m.1 m.2 ++ later members rest) := by
  rw [printObject, List.map_cons, commaSeparated_cons, later_eq]
  simp

theorem length_le_later (members : List (String × List Char)) (rest : Input) :
    members.length < (later members rest).length := by
  induction members with
  | nil => simp [later]
  | cons m members ih =>
    simp only [later, List.length_cons, List.length_append]
    omega

theorem printMember_append (name : String) (value : List Char) (rest : Input) :
    printMember name value ++ rest =
      '"' :: (name.toList.flatMap escaped ++ '"' :: ':' :: (value ++ rest)) := by
  rw [printMember, List.append_assoc, printText_append]
  rfl

namespace Shape

variable {shape : Shape ρ}

theorem find?_name {fields : List (Field ρ)} (names : (fields.map (·.name)).Nodup) {f : Field ρ}
    (h : f ∈ fields) : fields.find? (fun g => g.name == f.name) = some f := by
  induction fields with
  | nil => cases h
  | cons g fields ih =>
    obtain ⟨new, names⟩ := List.nodup_cons.mp names
    rcases List.mem_cons.mp h with rfl | h
    · rw [List.find?_cons_of_pos (by simp)]
    · have other : g.name ≠ f.name := fun eq => new (List.mem_map.mpr ⟨f, h, eq.symm⟩)
      rw [List.find?_cons_of_neg (by simpa using other), ih names h]

/-- A member of the object is read, and its value put into the record. -/
theorem member_filled {x : Filled ρ} (hx : x.field ∈ shape.fields)
    (names : (shape.fields.map (·.name)).Nodup) (back : x.Back) {progress : Progress ρ}
    (new : x.field.name ∉ progress.seen) {rest : Input} (hr : Ends rest) :
    shape.member progress x.field.name (':' :: (x.value ++ rest)) =
      .ok (⟨x.field.name :: progress.seen, x.put progress.record⟩, rest) := by
  have found := find?_name names hx
  have colon : skipColon (':' :: (x.value ++ rest)) = .ok (x.value ++ rest) := rfl
  have fresh : progress.seen.contains x.field.name = false := by simpa using new
  simp only [member, found, fresh, colon, back rest hr, Except.map, Bool.false_eq_true, if_false]

/-- One member of the object is taken, wherever it stands. -/
theorem members_filled_cons {x : Filled ρ} (hx : x.field ∈ shape.fields)
    (names : (shape.fields.map (·.name)).Nodup) (back : x.Back) {progress : Progress ρ}
    (new : x.field.name ∉ progress.seen) {rest : Input} (hr : Ends rest) {first : Bool} {s : Input}
    (hs : nextMember first s = .ok (.element
      (x.field.name.toList.flatMap escaped ++ '"' :: ':' :: (x.value ++ rest)))) (n : Nat) :
    members shape.member (n + 1) first progress s =
      members shape.member n false
        ⟨x.field.name :: progress.seen, x.put progress.record⟩ rest := by
  simp only [members, hs, textBody_flatMap, member_filled hx names back new hr]

theorem members_filled (names : (shape.fields.map (·.name)).Nodup) {xs : List (Filled ρ)}
    (fields : ∀ x ∈ xs, x.field ∈ shape.fields) (back : ∀ x ∈ xs, x.Back)
    (distinct : (xs.map (·.field.name)).Nodup) {progress : Progress ρ}
    (new : ∀ x ∈ xs, x.field.name ∉ progress.seen) {n : Nat} (hn : xs.length < n)
    (rest : Input) :
    members shape.member n false progress (later (xs.map Filled.member) rest) =
      .ok (⟨(xs.map (·.field.name)).reverse ++ progress.seen, Filled.record xs progress.record⟩,
        rest) := by
  induction xs generalizing progress n with
  | nil =>
    cases n with
    | zero => cases hn
    | succ n => rfl
  | cons x xs ih =>
    cases n with
    | zero => cases hn
    | succ n =>
      have hs : nextMember false (later ((x :: xs).map Filled.member) rest) = .ok (.element
          (x.field.name.toList.flatMap escaped ++
            '"' :: ':' :: (x.value ++ later (xs.map Filled.member) rest))) := by
        rw [List.map_cons, later, Filled.member, printMember_append]
        rfl
      obtain ⟨other, distinct⟩ := List.nodup_cons.mp distinct
      have still : ∀ y ∈ xs, y.field.name ∉ x.field.name :: progress.seen := by
        intro y hy
        rw [List.mem_cons, not_or]
        refine ⟨fun eq => other ?_, new y (by simp [hy])⟩
        exact List.mem_map.mpr ⟨y, hy, eq⟩
      rw [members_filled_cons (fields x (by simp)) names (back x (by simp)) (new x (by simp))
        (ends_later _ rest) hs, ih (fun y hy => fields y (by simp [hy]))
          (fun y hy => back y (by simp [hy])) distinct still (by simpa using hn)]
      simp [Filled.record]

/-- The members of an object are taken up to its end. -/
theorem object_filled (names : (shape.fields.map (·.name)).Nodup) {x : Filled ρ}
    {xs : List (Filled ρ)} (fields : ∀ y ∈ x :: xs, y.field ∈ shape.fields)
    (back : ∀ y ∈ x :: xs, y.Back) (distinct : ((x :: xs).map (·.field.name)).Nodup)
    (rest : Input) :
    object shape.member shape.start
        (printMember x.field.name x.value ++ later (xs.map Filled.member) rest) =
      .ok (⟨((x :: xs).map (·.field.name)).reverse, Filled.record (x :: xs) shape.blank⟩,
        rest) := by
  obtain ⟨other, distinct⟩ := List.nodup_cons.mp distinct
  have new : ∀ y ∈ xs, y.field.name ∉ [x.field.name] := fun y hy eq =>
    other (List.mem_map.mpr ⟨y, hy, List.mem_singleton.mp eq⟩)
  have hs : nextMember true (printMember x.field.name x.value ++
      later (xs.map Filled.member) rest) = .ok (.element (x.field.name.toList.flatMap escaped ++
        '"' :: ':' :: (x.value ++ later (xs.map Filled.member) rest))) := by
    rw [printMember_append]
    rfl
  have enough : xs.length < (printMember x.field.name x.value ++
      later (xs.map Filled.member) rest).length := by
    have := length_le_later (xs.map Filled.member) rest
    rw [List.length_map] at this
    rw [List.length_append]
    omega
  rw [object, members_filled_cons (fields x (by simp)) names (back x (by simp))
    List.not_mem_nil (ends_later _ rest) hs, members_filled names
      (fun y hy => fields y (by simp [hy])) (fun y hy => back y (by simp [hy])) distinct new enough]
  simp [Filled.record, start]

/-- Where every field was there, none is missed. -/
theorem finish_complete {seen : List String} (h : ∀ f ∈ shape.fields, f.name ∈ seen) (r : ρ) :
    shape.finish ⟨seen, r⟩ = .ok r := by
  have none : shape.fields.find? (fun f => f.required && ! seen.contains f.name) = none := by
    rw [List.find?_eq_none]
    intro f hf
    simp [h f hf]
  rw [finish, none]

/-- An object with all fields of a shape is read back. -/
theorem reads_printObject {xs : List (Filled ρ)} (some : xs ≠ [])
    (fields : xs.map (·.field) = shape.fields) (names : (shape.fields.map (·.name)).Nodup)
    (back : ∀ x ∈ xs, x.Back) :
    Reads shape.read (printObject (xs.map Filled.member)) (Filled.record xs shape.blank) := by
  intro rest _
  cases xs with
  | nil => exact absurd rfl some
  | cons x xs =>
    have among : ∀ y ∈ x :: xs, y.field ∈ shape.fields := fun y hy =>
      fields ▸ List.mem_map_of_mem hy
    have distinct : ((x :: xs).map (·.field.name)).Nodup := by
      rw [← fields, List.map_map] at names
      exact names
    have complete : ∀ f ∈ shape.fields, f.name ∈ ((x :: xs).map (·.field.name)).reverse := by
      intro f hf
      obtain ⟨y, hy, rfl⟩ := List.mem_map.mp (fields ▸ hf)
      exact List.mem_reverse.mpr (List.mem_map.mpr ⟨y, hy, rfl⟩)
    rw [List.map_cons, Filled.member, printObject_append, read, skipSpace_cons rfl]
    simp only [object_filled names among back distinct, finish_complete complete, Except.map]

/-- The shape of objects that have every member. -/
def strict (shape : Shape ρ) : Shape ρ :=
  { shape with fields := shape.fields.map fun f => { f with required := true } }

/-- An object with all fields of a shape is read back also if none may be left out. -/
theorem reads_printObject_strict {xs : List (Filled ρ)} (some : xs ≠ [])
    (fields : xs.map (·.field) = shape.fields) (names : (shape.fields.map (·.name)).Nodup)
    (back : ∀ x ∈ xs, x.Back) :
    Reads shape.strict.read (printObject (xs.map Filled.member))
      (Filled.record xs shape.blank) := by
  -- Only the marks of the fields differ, and no value is read by them.
  have marked : Reads shape.strict.read
      (printObject ((xs.map fun x => { x with field := { x.field with required := true } }).map
        Filled.member))
      (Filled.record (xs.map fun x => { x with field := { x.field with required := true } })
        shape.strict.blank) := by
    refine reads_printObject (by simpa using some) ?_ ?_ ?_
    · rw [strict, ← fields, List.map_map, List.map_map]
      rfl
    · rw [strict, List.map_map]
      exact names
    · intro y hy
      obtain ⟨x, hx, rfl⟩ := List.mem_map.mp hy
      exact back x hx
  rw [List.map_map, Filled.record, List.foldl_map] at marked
  exact marked

end Shape

end Outbox.Json
