import Mathlib.Data.List.Nodup
import Outbox.Proofs.Json.Objects
import Outbox.Proofs.Json.Understanding

/-!
# Records and their descriptions

A description joins the fields of a shape with the parts of the record that the format tells of
(`Description`). The shape then reads every spelling of a record as this record, and refuses every
object that is flawed (`Description.understands`, `Description.refuses`).
-/

namespace Outbox.Json

/-- A part of a record with the field that reads it. -/
structure Slot (ρ : Type) (blank : ρ) where
  part : Part ρ
  field : Field ρ
  /-- The second record with this part of the first. -/
  copy : ρ → ρ → ρ
  name : field.name = part.name
  needed : field.required = part.needed
  omits : ∀ {r}, part.Omits r → part.needed = false ∧ field.omittable = true ∧ copy r blank = blank
  reads : ∀ {r t}, part.Text r t → Reads field.read t (copy r)
  blanks : SkipsBlanks field.read
  follows : Follows field.read
  wrong : ∀ {t}, part.Wrong t → Refuses field.read t

namespace Slot

variable {ρ α : Type} {blank : ρ} {read : Reader α} {Text : α → List Char → Prop}

/-- A part that is always written. -/
def required (name : String) (h : Understands read Text) (get : ρ → α) (put : α → ρ → ρ) :
    Slot ρ blank where
  part := .required name Text get
  field := .needed name read put
  copy r := put (get r)
  name := rfl
  needed := rfl
  omits := False.elim
  reads ht := (h.reads ht).map put
  blanks := h.blanks.map put
  follows := h.follows.map put
  wrong := by
    rintro _ rfl
    exact h.null.map put

/-- A part that may be left out where it has its default, which the blank record has. -/
def defaulted (name : String) (h : Understands read Text) (get : ρ → α) (put : α → ρ → ρ)
    (default : α) (same : put default blank = blank) : Slot ρ blank where
  part := .defaulted name Text get default
  field := .defaulted name read put
  copy r := put (get r)
  name := rfl
  needed := rfl
  omits ho := ⟨rfl, rfl, ho ▸ same⟩
  reads ht := (h.reads ht).map put
  blanks := h.blanks.map put
  follows := h.follows.map put
  wrong := by
    rintro _ rfl
    exact h.null.map put

/-- A part that may be missing, as it is in the blank record. -/
def optional (name : String) (h : Understands read Text) (get : ρ → Option α)
    (put : Option α → ρ → ρ) (same : put none blank = blank) {Wrong : List Char → Prop}
    (wrong : ∀ {t}, Wrong t → Starts t ∧ Refuses read t) : Slot ρ blank where
  part := .optional name Text get Wrong
  field := .defaulted name (Json.optional read) put
  copy r := put (get r)
  name := rfl
  needed := rfl
  omits ho := ⟨rfl, rfl, ho ▸ same⟩
  reads ht := (h.reads_optional ht).map put
  blanks := SkipsBlanks.optional.map put
  follows := h.follows.optional.map put
  wrong ht := ((wrong ht).2.optional h.blanks (wrong ht).1).map put

/-- The records that two parts are copied into, one after the other, do not depend on the order. -/
def Commute (x y : Slot ρ blank) : Prop :=
  ∀ r s, x.copy r (y.copy r s) = y.copy r (x.copy r s)

end Slot

/-- The parts of the records of a shape. Its laws hold by computation where the slots are listed. -/
structure Description {ρ : Type} (shape : Shape ρ) where
  slots : List (Slot ρ shape.blank)
  fields : slots.map (·.field) = shape.fields := by rfl
  names : (slots.map (·.part.name)).Nodup := by decide
  commute : slots.Pairwise Slot.Commute := by
    simp only [List.pairwise_cons, List.forall_mem_cons]
    and_intros
    all_goals first | exact fun _ _ => rfl | exact fun _ h => nomatch h | exact .nil
  /-- The parts make up the whole record. -/
  whole : ∀ r, slots.foldr (fun x s => x.copy r s) shape.blank = r := by exact fun _ => rfl

namespace Description

variable {ρ : Type} {shape : Shape ρ} (d : Description shape)

/-- The parts. -/
def parts : List (Part ρ) := d.slots.map (·.part)

theorem slots_nodup : d.slots.Nodup := List.Nodup.of_map _ d.names

theorem copy_comm {x y : Slot ρ shape.blank} (hx : x ∈ d.slots) (hy : y ∈ d.slots) (r s : ρ) :
    x.copy r (y.copy r s) = y.copy r (x.copy r s) := by
  have both : ∀ ⦃x⦄, x ∈ d.slots → ∀ ⦃y⦄, y ∈ d.slots → Slot.Commute x y :=
    List.Pairwise.forall_of_forall_of_flip (fun _ _ _ _ => rfl) d.commute
      (d.commute.imp fun h r s => (h r s).symm)
  exact both hx hy r s

/-- The record in which the listed parts are those of another. -/
def copied (r : ρ) (taken : List (Slot ρ shape.blank)) : ρ :=
  taken.foldr (fun x s => x.copy r s) shape.blank

/-- The listed parts are among the parts, and none is listed twice. -/
structure Chosen (taken : List (Slot ρ shape.blank)) : Prop where
  nodup : taken.Nodup
  mem : ∀ x ∈ taken, x ∈ d.slots

theorem Chosen.nil : d.Chosen [] := ⟨List.nodup_nil, List.forall_mem_nil _⟩

/-- Where the other parts may be left out, the record is complete. -/
theorem copied_eq {r : ρ} {taken : List (Slot ρ shape.blank)} (chosen : d.Chosen taken)
    (rest : ∀ x ∈ d.slots, x ∉ taken → x.part.Omits r) :
    copied r taken = r := by
  classical
  have perm : d.slots.Perm (taken ++ d.slots.filter fun x => x ∉ taken) := by
    refine (List.perm_ext_iff_of_nodup d.slots_nodup ?_).mpr fun x => ?_
    · refine List.Nodup.append chosen.nodup (d.slots_nodup.filter _) ?_
      intro x hx hx'
      exact absurd hx (by simpa using (List.mem_filter.mp hx').2)
    · by_cases hx : x ∈ taken
      · simp [hx, chosen.mem x hx]
      · simp [hx]
  have omitted : (d.slots.filter fun x => x ∉ taken).foldr (fun x s => x.copy r s) shape.blank =
      shape.blank := by
    refine List.foldrRecOn (motive := (· = shape.blank)) _ _ rfl fun s hs x hx => ?_
    obtain ⟨hx, new⟩ := List.mem_filter.mp hx
    rw [hs]
    exact (x.omits (rest x hx (by simpa using new))).2.2
  calc copied r taken
      = (taken ++ d.slots.filter fun x => x ∉ taken).foldr (fun x s => x.copy r s) shape.blank := by
        rw [List.foldr_append, omitted, copied]
    _ = d.slots.foldr (fun x s => x.copy r s) shape.blank := by
        refine (perm.foldr_eq' ?_ _).symm
        exact fun x hx y hy s => d.copy_comm hy hx r s
    _ = r := d.whole r

/-! ### Reading an object -/

theorem find?_slot {x : Slot ρ shape.blank} (hx : x ∈ d.slots) :
    shape.fields.find? (fun f => f.name == x.part.name) = some x.field := by
  have names : (shape.fields.map (·.name)).Nodup := by
    have same : (fun x : Slot ρ shape.blank => x.field.name) = fun x => x.part.name :=
      funext fun x => x.name
    rw [← d.fields, List.map_map]
    show (d.slots.map fun x => x.field.name).Nodup
    rw [same]
    exact d.names
  rw [← x.name]
  exact Shape.find?_name names (d.fields ▸ List.mem_map.mpr ⟨x, hx, rfl⟩)

theorem find?_other {key : String} (other : ∀ p ∈ d.parts, p.name ≠ key) :
    shape.fields.find? (fun f => f.name == key) = none := by
  rw [List.find?_eq_none, ← d.fields]
  intro f hf
  obtain ⟨x, hx, rfl⟩ := List.mem_map.mp hf
  rw [x.name]
  simpa using other x.part (List.mem_map.mpr ⟨x, hx, rfl⟩)

/-- What has been read of an object after some parts of a record. -/
def progress (r : ρ) (taken : List (Slot ρ shape.blank)) : Shape.Progress ρ :=
  ⟨taken.map (·.part.name), copied r taken⟩

variable {r : ρ} {taken : List (Slot ρ shape.blank)} {m : Member} {rest : Input}

theorem member_slot {x : Slot ρ shape.blank} (hx : x ∈ d.slots) (text : x.part.Text r m.value)
    (new : x.part.name ∉ taken.map (·.part.name)) (hr : Ends rest) :
    shape.member (progress r taken) x.part.name (m.tail rest) =
      .ok (progress r (x :: taken), m.after ++ rest) := by
  have fresh : (progress r taken).seen.contains x.part.name = false := by
    simpa [progress] using new
  have value : x.field.read (m.afterColon ++ (m.value ++ (m.after ++ rest))) =
      .ok (x.copy r, m.after ++ rest) :=
    (x.blanks _ _).trans (x.reads text _ (ends_blank m.after hr))
  simp only [Shape.member, d.find?_slot hx, fresh, Bool.false_eq_true, if_false, m.skipColon_tail,
    value, Except.map]
  rfl

theorem member_other {key : String} (other : ∀ p ∈ d.parts, p.name ≠ key) (value : IsValue m.value)
    (hr : Ends rest) (p : Shape.Progress ρ) :
    shape.member p key (m.tail rest) = .ok (p, m.after ++ rest) := by
  simp only [Shape.member, d.find?_other other, m.skipColon_tail,
    skipValue_of_isValue value m.afterColon (ends_blank m.after hr), Except.map]

/-- Parts are told apart by their names. -/
theorem slot_eq {x y : Slot ρ shape.blank} (hx : x ∈ d.slots) (hy : y ∈ d.slots)
    (same : x.part.name = y.part.name) : x = y :=
  List.inj_on_of_nodup_map d.names hx hy same

namespace Chosen

variable {d} {x : Slot ρ shape.blank}

theorem cons (h : d.Chosen taken) (hx : x ∈ d.slots) (fresh : x ∉ taken) : d.Chosen (x :: taken) where
  nodup := List.nodup_cons.mpr ⟨fresh, h.nodup⟩
  mem := List.forall_mem_cons.mpr ⟨hx, h.mem⟩

theorem name_not_mem (h : d.Chosen taken) (hx : x ∈ d.slots) (fresh : x ∉ taken) :
    x.part.name ∉ taken.map (·.part.name) := by
  intro hm
  obtain ⟨y, hy, same⟩ := List.mem_map.mp hm
  exact fresh (d.slot_eq hx (h.mem y hy) same.symm ▸ hy)

end Chosen

/-- The members of an object that spells the record are read into it, in whatever order. -/
theorem members_text (r : ρ) (taken : List (Slot ρ shape.blank)) (rest : Input) {ms : List Member}
    (each : ∀ m ∈ ms,
      (∃ p ∈ d.parts, SpellsText p.name m.key ∧ p.Text r m.value) ∨ m.IsOther d.parts)
    (once : ms.Pairwise fun m m' =>
      ∀ p ∈ d.parts, ¬ (SpellsText p.name m.key ∧ SpellsText p.name m'.key))
    (new : ∀ x ∈ taken, ∀ m ∈ ms, ¬ SpellsText x.part.name m.key)
    (chosen : d.Chosen taken) {n : Nat} (enough : ms.length < n) :
    ∃ taken', members shape.member n false (progress r taken)
        (Frame.object.later (ms.map Member.piece) rest) = .ok (progress r taken', rest) ∧
      d.Chosen taken' ∧ (∀ x ∈ taken, x ∈ taken') ∧
      ∀ x ∈ d.slots, (∃ m ∈ ms, SpellsText x.part.name m.key) → x ∈ taken' := by
  induction ms generalizing taken n with
  | nil =>
    obtain ⟨n, rfl⟩ := Nat.exists_eq_succ_of_ne_zero (Nat.ne_of_gt enough)
    refine ⟨taken, ?_, chosen, fun _ hx => hx, fun _ _ hm => ?_⟩
    · exact members_nil
    · simp at hm
  | cons m ms ih =>
    obtain ⟨n, rfl⟩ := Nat.exists_eq_succ_of_ne_zero (Nat.ne_of_gt (Nat.zero_lt_of_lt enough))
    have enough : ms.length < n := Nat.lt_of_succ_lt_succ enough
    obtain ⟨apart, once⟩ := List.pairwise_cons.mp once
    obtain ⟨first, each⟩ := List.forall_mem_cons.mp each
    have still : ∀ x ∈ taken, ∀ m ∈ ms, ¬ SpellsText x.part.name m.key :=
      fun x hx m' hm' => new x hx m' (List.mem_cons_of_mem _ hm')
    have ends := Frame.object.ends_later (ms.map Member.piece) rest
    rw [List.map_cons, Frame.later_cons, show m.piece.text = m.text from rfl]
    rcases first with ⟨p, hp, spells, text⟩ | ⟨⟨key, spells, other⟩, value⟩
    · obtain ⟨x, hx, rfl⟩ := List.mem_map.mp hp
      have fresh : x ∉ taken := fun h => new x h m List.mem_cons_self spells
      have apart : ∀ m' ∈ ms, ¬ SpellsText x.part.name m'.key :=
        fun m' hm' spells' => apart m' hm' _ hp ⟨spells, spells'⟩
      obtain ⟨taken', run, chosen', kept, named⟩ := ih (x :: taken) each once
        (List.forall_mem_cons.mpr ⟨apart, still⟩) (chosen.cons hx fresh) enough
      obtain ⟨there, kept⟩ := List.forall_mem_cons.mp kept
      refine ⟨taken', ?_, chosen', kept, ?_⟩
      · rw [members_next spells (d.member_slot hx text (chosen.name_not_mem hx fresh) ends), run]
      · rintro y hy ⟨m', hm', spells'⟩
        rcases List.mem_cons.mp hm' with rfl | hm'
        · rwa [d.slot_eq hy hx (spells'.unique spells)]
        · exact named y hy ⟨m', hm', spells'⟩
    · obtain ⟨taken', run, chosen', kept, named⟩ := ih taken each once still chosen enough
      refine ⟨taken', ?_, chosen', kept, ?_⟩
      · rw [members_next spells (d.member_other other value ends _), run]
      · rintro y hy ⟨m', hm', spells'⟩
        rcases List.mem_cons.mp hm' with rfl | hm'
        · exact absurd (spells'.unique spells) (other y.part (List.mem_map.mpr ⟨y, hy, rfl⟩))
        · exact named y hy ⟨m', hm', spells'⟩

/-- Nothing that a record has to have is missing where the other parts may be left out. -/
theorem finish_progress (chosen : d.Chosen taken)
    (omitted : ∀ x ∈ d.slots, x ∉ taken → x.part.Omits r) :
    shape.finish (progress r taken) = .ok r := by
  have none : shape.fields.find?
      (fun f => f.required && ! (progress r taken).seen.contains f.name) = none := by
    rw [List.find?_eq_none, ← d.fields]
    intro f hf
    obtain ⟨x, hx, rfl⟩ := List.mem_map.mp hf
    by_cases seen : x ∈ taken
    · have : x.field.name ∈ (progress r taken).seen := by
        rw [x.name]
        exact List.mem_map.mpr ⟨x, seen, rfl⟩
      simp [this]
    · simp [x.needed, (x.omits (omitted x hx seen)).1]
  rw [Shape.finish, none]
  exact congrArg Except.ok (d.copied_eq chosen omitted)

/-- An object that spells the record is read as it. -/
theorem object_text (inside : Blank) {ms : List Member} (h : MembersText d.parts r ms) :
    Reads shape.read (objectText inside ms) r := by
  intro rest _
  obtain ⟨n, enough, run⟩ := object_eq shape.member shape.start inside ms rest
  obtain ⟨taken, read, chosen, -, named⟩ := d.members_text r [] rest h.each h.once
    (List.forall_mem_nil _) (.nil d) enough
  have started : progress r [] = shape.start := rfl
  rw [started, ← run] at read
  have complete : shape.finish (progress r taken) = .ok r := by
    refine d.finish_progress chosen fun x hx none => ?_
    rcases h.rest x.part (List.mem_map.mpr ⟨x, hx, rfl⟩) with spelled | omits
    · exact absurd (named x hx spelled) none
    · exact omits
  have brace := skipSpace_cons (c := '{') rfl
  simp only [objectText, List.cons_append, List.append_assoc, List.nil_append, Shape.read, brace,
    read, complete, Except.map]

/-! ### Reading a list -/

/-- What has happened where the elements of a list are taken: the list ends, or one more is
taken. -/
theorem elements_cases {f : Field ρ} {fs : List (Field ρ)} {count : Nat} {s : Input} {x : ρ × Input}
    (h : shape.elements (f :: fs) count r s = .ok x) :
    (∃ t, nextElement (count == 0) s = .ok (.closed t) ∧ x = (r, t)) ∨
    ∃ t put s₁, nextElement (count == 0) s = .ok (.element t) ∧ f.read t = .ok (put, s₁) ∧
      shape.elements fs (count + 1) (put r) s₁ = .ok x := by
  unfold Shape.elements at h
  split at h
  · cases h
  · next t hn =>
    split at h
    · cases h
    · next put s₁ read => exact .inr ⟨t, put, s₁, hn, read, h⟩
  · next t hn =>
    dsimp only at h
    split_ifs at h
    exact .inl ⟨t, hn, (Except.ok.inj h).symm⟩

/-- The list may end before fields that can be left out. -/
theorem elements_end {fs : List (Field ρ)} (omittable : ∀ f ∈ fs, f.omittable = true) (count : Nat)
    {s : Input} (hs : skipSpace s = ']' :: rest) (r : ρ) :
    shape.elements fs count r s = .ok (r, rest) := by
  cases fs with
  | nil => simp [Shape.elements, closeList, hs, Except.map]
  | cons f fs =>
    have all : (f :: fs).takeWhile (·.omittable) = f :: fs := by
      rw [List.takeWhile_eq_self_iff]
      exact omittable
    simp [Shape.elements, nextElement_end _ hs, all]

/-- One element is read as the next part of the record. -/
theorem elements_next {x : Slot ρ shape.blank} {i : Item} (text : x.part.Text r i.value)
    (hr : Ends rest) {count : Nat} {s : Input}
    (hs : ∀ c t, skipSpace (i.text ++ rest) = c :: t → c ≠ ']' →
      nextElement (count == 0) s = .ok (.element (c :: t))) (fs : List (Field ρ)) (r' : ρ) :
    shape.elements (x.field :: fs) count r' s =
      shape.elements fs (count + 1) (x.copy r r') (i.after ++ rest) := by
  have read : x.field.read (i.text ++ rest) = .ok (x.copy r, i.after ++ rest) := by
    rw [Item.text, List.append_assoc, List.append_assoc, x.blanks]
    exact x.reads text _ (ends_blank i.after hr)
  -- What is read is a value, and so it begins with no end of a list.
  obtain ⟨k, leads⟩ := x.follows _ _ _ read []
  obtain ⟨c, t, ht, more⟩ := leads.begins
  rw [← x.blanks.skipSpace, ht] at read
  simp only [Shape.elements, hs c t ht more, read]

theorem elements_blank (fs : List (Field ρ)) (count : Nat) (r : ρ) (w : Blank) (s : Input) :
    shape.elements fs count r (w ++ s) = shape.elements fs count r s := by
  cases fs with
  | nil => simp only [Shape.elements, closeList, skipSpace_blank]
  | cons f fs => simp only [Shape.elements, nextElement, skipSpace_blank]

/-- Where there are no more elements, every part may be left out of the list. -/
theorem omittable_of_ended {slots : List (Slot ρ shape.blank)}
    (h : ItemsText r (slots.map (·.part)) []) : (∀ x ∈ slots, x.part.Omits r) ∧
      ∀ f ∈ slots.map (·.field), f.omittable = true := by
  have omitted : ∀ x ∈ slots, x.part.Omits r := fun x hx =>
    h.omits _ (List.mem_map.mpr ⟨x, hx, rfl⟩)
  refine ⟨omitted, fun f hf => ?_⟩
  obtain ⟨x, hx, rfl⟩ := List.mem_map.mp hf
  exact (x.omits (omitted x hx)).2.1

/-- The elements after others are read as the parts in order, and the parts after them are left as
they are. -/
theorem elements_text {slots : List (Slot ρ shape.blank)} {items : List Item}
    (h : ItemsText r (slots.map (·.part)) items) {count : Nat} (later : 0 < count) (r' : ρ)
    (rest : Input) :
    ∃ given omitted, slots = given ++ omitted ∧ (∀ x ∈ omitted, x.part.Omits r) ∧
      shape.elements (slots.map (·.field)) count r'
        (Frame.list.later (items.map Item.piece) rest) =
          .ok (given.foldl (fun s x => x.copy r s) r', rest) := by
  induction items generalizing slots count r' with
  | nil =>
    obtain ⟨left, omittable⟩ := omittable_of_ended h
    exact ⟨[], slots, rfl, left, elements_end omittable _ (skipSpace_cons rfl rest) r'⟩
  | cons i items ih =>
    cases slots with
    | nil => cases h
    | cons x slots =>
      cases h with
      | next here more =>
        obtain ⟨given, omitted, rfl, left, run⟩ := ih more (Nat.succ_pos count) (x.copy r r')
        refine ⟨x :: given, omitted, rfl, left, ?_⟩
        have notFirst : (count == 0) = false := by simpa using Nat.ne_of_gt later
        rw [List.map_cons, List.map_cons, Frame.later_cons, show i.piece.text = i.text from rfl,
          elements_next here (Frame.list.ends_later _ _) ?_, elements_blank, run]
        · rfl
        · intro c t ht more
          rw [notFirst]
          exact nextElement_comma ht more

/-- All elements are read as the first parts, the first element like the others. -/
theorem elements_first {slots : List (Slot ρ shape.blank)} {items : List Item}
    (h : ItemsText r (slots.map (·.part)) items) (inside : Blank) (r' : ρ) (rest : Input) :
    ∃ given omitted, slots = given ++ omitted ∧ (∀ x ∈ omitted, x.part.Omits r) ∧
      shape.elements (slots.map (·.field)) 0 r'
        (inside ++ (commaSeparated (items.map Item.text) ++ ']' :: rest)) =
          .ok (given.foldl (fun s x => x.copy r s) r', rest) := by
  cases items with
  | nil =>
    obtain ⟨left, omittable⟩ := omittable_of_ended h
    refine ⟨[], slots, rfl, left, ?_⟩
    rw [elements_blank]
    exact elements_end omittable _ (skipSpace_cons rfl rest) r'
  | cons i items =>
    cases slots with
    | nil => cases h
    | cons x slots =>
      cases h with
      | next here more =>
        obtain ⟨given, omitted, rfl, left, run⟩ :=
          elements_text more Nat.zero_lt_one (x.copy r r') rest
        refine ⟨x :: given, omitted, rfl, left, ?_⟩
        have whole := Frame.list.commaSeparated_later i.piece (items.map Item.piece) rest
        rw [← List.map_cons, List.map_map] at whole
        rw [elements_blank, show commaSeparated ((i :: items).map Item.text) ++ ']' :: rest = _
          from whole, List.map_cons, show i.piece.text = i.text from rfl,
          elements_next here (Frame.list.ends_later _ _) ?_, elements_blank, run]
        · rfl
        · exact fun c t ht more => nextElement_first ht more

/-- A list that spells the record is read as it. -/
theorem list_text (inside : Blank) {items : List Item} (h : ItemsText r d.parts items) :
    Reads shape.read (listText inside items) r := by
  intro rest _
  obtain ⟨given, omitted, slots, left, run⟩ := elements_first h inside shape.blank rest
  have complete : given.foldl (fun s x => x.copy r s) shape.blank = r := by
    have chosen : d.Chosen given.reverse := by
      refine ⟨List.nodup_reverse.mpr (List.nodup_append.mp (slots ▸ d.slots_nodup)).1, ?_⟩
      intro x hx
      rw [slots]
      exact List.mem_append_left _ (List.mem_reverse.mp hx)
    have whole : copied r given.reverse = r := by
      refine d.copied_eq chosen fun x hx new => ?_
      rw [slots] at hx
      rcases List.mem_append.mp hx with hx | hx
      · exact absurd (List.mem_reverse.mpr hx) new
      · exact left x hx
    rwa [copied, List.foldr_reverse] at whole
  rw [d.fields, complete] at run
  have bracket := skipSpace_cons (c := '[') rfl
  simp only [listText, List.cons_append, List.append_assoc, List.nil_append, Shape.read, bracket,
    run]

end Description

end Outbox.Json
