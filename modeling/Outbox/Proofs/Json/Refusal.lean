import Outbox.Proofs.Json.Description

/-!
# What a record is read from

A shape takes nothing but whole values (`follows_read`). So from an object that has been read it
follows what its members are (`Taken`), and none of the flaws of an object is among that
(`Description.refuses`).
-/

namespace Outbox.Json

variable {ρ : Type} {shape : Shape ρ}

namespace Description

variable {p p' : Shape.Progress ρ} {key : String} {s r rest : Input}

/-- What has happened where a member was taken: it was read for a part, or passed over. -/
theorem member_cases (d : Description shape) (h : shape.member p key s = .ok (p', r)) :
    ∃ t, skipColon s = .ok t ∧
      ((∃ x ∈ d.slots, ∃ put, x.part.name = key ∧ key ∉ p.seen ∧ p'.seen = key :: p.seen ∧
          x.field.read t = .ok (put, r)) ∨
        (∀ x ∈ d.slots, x.part.name ≠ key) ∧ p' = p ∧ skipValue t = .ok r) := by
  unfold Shape.member at h
  split at h
  · next found =>
    split at h
    · cases h
    · next t colon =>
      obtain ⟨r', skips, eq⟩ := map_eq_ok.mp h
      cases eq
      refine ⟨t, colon, .inr ⟨fun x hx same => ?_, rfl, skips⟩⟩
      cases found.symm.trans (same ▸ d.find?_slot hx)
  · next field found =>
    split_ifs at h with seen
    split at h
    · cases h
    · next t colon =>
      obtain ⟨⟨put, r'⟩, read, eq⟩ := map_eq_ok.mp h
      cases eq
      have among := List.mem_of_find?_eq_some found
      rw [← d.fields] at among
      obtain ⟨x, hx, rfl⟩ := List.mem_map.mp among
      have name : x.part.name = key := by
        rw [← x.name]
        simpa using List.find?_some found
      exact ⟨t, colon, .inl ⟨x, hx, put, name, by simpa using seen, rfl, read⟩⟩

theorem memberFollows (d : Description shape) : MemberFollows shape.member := by
  intro p key s p' r h
  obtain ⟨t, colon, ⟨x, -, put, -, -, -, read⟩ | ⟨-, -, skips⟩⟩ := d.member_cases h
  · exact ⟨t, colon, x.follows _ _ _ read⟩
  · exact ⟨t, colon, leads_of_skipLoop skips⟩

/-- Elements that are taken after others are passed over. -/
theorem elements_follows {slots : List (Slot ρ shape.blank)} {count : Nat} (later : 0 < count)
    {a b : ρ} (h : shape.elements (slots.map (·.field)) count a s = .ok (b, r))
    (stack : List Frame) : ∃ k, Leads k .after (.list :: stack) s .after stack r := by
  have notFirst : (count == 0) = false := by simpa using Nat.ne_of_gt later
  induction slots generalizing count a s with
  | nil =>
    obtain ⟨r', closes, eq⟩ := map_eq_ok.mp h
    cases eq
    exact ⟨1, (SkipStep.close (closeList_cases closes)).leads⟩
  | cons x slots ih =>
    rcases elements_cases h with ⟨t, hn, eq⟩ | ⟨t, put, s₁, hn, read, more⟩
    · cases eq
      rcases nextElement_cases hn with ⟨_, hs, ⟨⟩⟩ | ⟨_, _, _, -, -, ⟨⟩, -⟩
      exact ⟨1, (SkipStep.close hs).leads⟩
    · rcases nextElement_cases hn with ⟨_, -, ⟨⟩⟩ | ⟨u, c, t', hu, -, ⟨⟩, hs⟩
      rw [notFirst] at hs
      obtain ⟨k, value⟩ := x.follows _ _ _ read (.list :: stack)
      obtain ⟨l, others⟩ := ih (Nat.succ_pos count) more (by simp)
      exact ⟨_, (SkipStep.comma hs rfl).leads.trans ((leads_skipSpace (hu ▸ value)).trans others)⟩

/-- A list that is taken is passed over. -/
theorem list_follows {slots : List (Slot ρ shape.blank)} {t : Input} (ht : skipSpace t = '[' :: s)
    {a b : ρ} (h : shape.elements (slots.map (·.field)) 0 a s = .ok (b, r)) (stack : List Frame) :
    ∃ k, Leads k .before stack t .after stack r := by
  cases slots with
  | nil =>
    obtain ⟨r', closes, eq⟩ := map_eq_ok.mp h
    cases eq
    exact ⟨1, (SkipStep.empty ht rfl (closeList_cases closes)).leads⟩
  | cons x slots =>
    rcases elements_cases h with ⟨t', hn, eq⟩ | ⟨t', put, s₁, hn, read, more⟩
    · cases eq
      rcases nextElement_cases hn with ⟨_, hs, ⟨⟩⟩ | ⟨_, _, _, -, -, ⟨⟩, -⟩
      exact ⟨1, (SkipStep.empty ht rfl hs).leads⟩
    · rcases nextElement_cases hn with ⟨_, -, ⟨⟩⟩ | ⟨u, c, t'', -, open_, ⟨⟩, hs⟩
      obtain ⟨k, value⟩ := x.follows _ _ _ read (.list :: stack)
      obtain ⟨l, others⟩ := elements_follows Nat.zero_lt_one more stack
      exact ⟨_, (SkipStep.enter ht rfl hs open_ rfl).leads.trans (value.trans others)⟩

/-- What is taken as a record would also be passed over. -/
theorem follows_read (d : Description shape) : Follows shape.read := by
  intro s r a h stack
  unfold Shape.read at h
  split at h
  · next s' hs =>
    split at h
    · cases h
    · next p r' taken =>
      obtain ⟨b, -, eq⟩ := map_eq_ok.mp h
      cases eq
      exact object_follows d.memberFollows hs taken stack
  · next s' hs =>
    rw [← d.fields] at h
    exact list_follows hs h stack
  · cases h

variable (d : Description shape)

/-- A reader with a description understands the texts of its records. -/
theorem understands : Understands shape.read (RecordText d.parts) where
  reads := by
    intro r t h
    cases h with
    | object inside members => exact d.object_text inside members
    | list inside elements => exact d.list_text inside elements
  starts := by
    intro r t h
    cases h with
    | object inside members => exact ⟨_, _, rfl, rfl, by decide⟩
    | list inside elements => exact ⟨_, _, rfl, rfl, by decide⟩
  blanks w s := by simp only [Shape.read, skipSpace_blank]
  follows := d.follows_read
  null w rest x hx := by
    simp only [Shape.read, skipSpace_blank] at hx
    cases hx

/-! ### Flaws -/

/-- What is known of members that have been taken one after the other. -/
structure Taken (ms : List Member) (p p' : Shape.Progress ρ) : Prop where
  spelled : ∀ name ∈ p'.seen, name ∈ p.seen ∨ ∃ m ∈ ms, SpellsText name m.key
  new : ∀ x ∈ d.slots, x.part.name ∈ p.seen → ∀ m ∈ ms, ¬ SpellsText x.part.name m.key
  once : ms.Pairwise fun m m' =>
    ∀ x ∈ d.slots, ¬ (SpellsText x.part.name m.key ∧ SpellsText x.part.name m'.key)
  read : ∀ x ∈ d.slots, ∀ m ∈ ms, SpellsText x.part.name m.key → ¬ Refuses x.field.read m.value

/-- A member that is taken ends where its text ends. If it is for a part, it is the first one, and
its value could be read. -/
theorem member_taken {m : Member} (value : IsValue m.value) (hr : Ends rest)
    (h : shape.member p key (m.tail rest) = .ok (p', s)) :
    s = m.after ++ rest ∧ (∀ name ∈ p.seen, name ∈ p'.seen) ∧
      (∀ name ∈ p'.seen, name ∈ p.seen ∨ name = key) ∧
      ∀ x ∈ d.slots, x.part.name = key →
        key ∉ p.seen ∧ key ∈ p'.seen ∧ ¬ Refuses x.field.read m.value := by
  have ends := ends_blank m.after hr
  obtain ⟨t, colon, cases⟩ := d.member_cases h
  cases (m.skipColon_tail rest).symm.trans colon
  rcases cases with ⟨x, hx, put, name, new, seen, read⟩ | ⟨other, rfl, skips⟩
  · refine ⟨x.follows.exact value ends read, ?_, ?_, fun y hy same => ⟨new, ?_, fun refuses => ?_⟩⟩
    · exact fun n hn => seen ▸ List.mem_cons_of_mem _ hn
    · exact fun n hn => (List.mem_cons.mp (seen ▸ hn)).symm
    · exact seen ▸ List.mem_cons_self
    · rw [d.slot_eq hy hx (same.trans name.symm)] at refuses
      exact refuses _ _ _ read
  · rw [skipValue_of_isValue value m.afterColon ends] at skips
    exact ⟨(Except.ok.inj skips).symm, fun _ hn => hn, fun _ hn => .inl hn,
      fun x hx same => absurd same (other x hx)⟩

/-- All members up to the end of an object are taken. -/
theorem members_taken {ms : List Member} (keys : ∀ m ∈ ms, IsContent m.key)
    (values : ∀ m ∈ ms, IsValue m.value) {n : Nat}
    (h : members shape.member n false p (Frame.object.later (ms.map Member.piece) rest) =
      .ok (p', r)) : d.Taken ms p p' := by
  induction ms generalizing p n with
  | nil =>
    cases members_end h
    exact { spelled := fun _ hn => .inl hn, new := by simp, once := .nil, read := by simp }
  | cons m ms ih =>
    obtain ⟨content, keys⟩ := List.forall_mem_cons.mp keys
    obtain ⟨value, values⟩ := List.forall_mem_cons.mp values
    cases n with
    | zero => cases h
    | succ n =>
      rw [List.map_cons, Frame.later_cons, show m.piece.text = m.text from rfl] at h
      obtain ⟨key, p₁, s, spells, taken, more⟩ := members_next_cases content h
      obtain ⟨rfl, kept, named, known⟩ :=
        d.member_taken value (Frame.object.ends_later (ms.map Member.piece) rest) taken
      rw [members_blank] at more
      have later := ih keys values more
      exact {
        spelled := by
          intro name hn
          rcases later.spelled name hn with hn | ⟨m', hm', spells'⟩
          · rcases named name hn with hn | rfl
            · exact .inl hn
            · exact .inr ⟨m, List.mem_cons_self, spells⟩
          · exact .inr ⟨m', List.mem_cons_of_mem _ hm', spells'⟩
        new := by
          intro x hx seen
          refine List.forall_mem_cons.mpr ⟨fun spells' => ?_, later.new x hx (kept _ seen)⟩
          exact (known x hx (spells'.unique spells)).1 (spells'.unique spells ▸ seen)
        once := by
          refine List.pairwise_cons.mpr ⟨fun m' hm' x hx two => ?_, later.once⟩
          have same := two.1.unique spells
          exact later.new x hx (same ▸ (known x hx same).2.1) m' hm' two.2
        read := by
          intro x hx
          refine List.forall_mem_cons.mpr ⟨fun spells' => ?_, later.read x hx⟩
          exact (known x hx (spells'.unique spells)).2.2 }

/-- Where the record of an object is given out, nothing it has to have is missing. -/
theorem finish_cases {a : ρ} (h : shape.finish p = .ok a) {x : Slot ρ shape.blank}
    (hx : x ∈ d.slots) (needed : x.part.needed = true) : x.part.name ∈ p.seen := by
  unfold Shape.finish at h
  split at h
  · cases h
  · next none =>
    have there := List.find?_eq_none.mp none x.field (d.fields ▸ List.mem_map.mpr ⟨x, hx, rfl⟩)
    simpa [x.needed, needed, x.name] using there

/-- The members of an object that is no record are not taken as one. -/
theorem not_taken {ms : List Member} (flaw : MembersFlawed d.parts ms)
    (taken : d.Taken ms shape.start p) {a : ρ} (finished : shape.finish p = .ok a) : False := by
  cases flaw with
  | missing part needed none =>
    obtain ⟨x, hx, rfl⟩ := List.mem_map.mp part
    rcases taken.spelled _ (d.finish_cases finished hx needed) with seen | ⟨m, hm, spells⟩
    · exact List.not_mem_nil seen
    · exact none m hm spells
  | repeated part two first second =>
    obtain ⟨x, hx, rfl⟩ := List.mem_map.mp part
    exact List.pairwise_iff_forall_sublist.mp taken.once two x hx ⟨first, second⟩
  | wrong part member name wrong =>
    obtain ⟨x, hx, rfl⟩ := List.mem_map.mp part
    exact taken.read x hx _ member name (x.wrong wrong)

/-- An object that is no record is not read as one. -/
theorem refuses {t : List Char} (flawed : Flawed d.parts t) : Refuses shape.read t := by
  cases flawed with
  | @object inside ms keys values flaw =>
    intro w rest x hx
    obtain ⟨n, -, run⟩ := object_eq shape.member shape.start inside ms rest
    have brace := skipSpace_cons (c := '{') rfl
    simp only [objectText, List.cons_append, List.append_assoc, List.nil_append, Shape.read,
      skipSpace_blank, brace, run] at hx
    split at hx
    · cases hx
    · next p r all =>
      obtain ⟨a, finished, -⟩ := map_eq_ok.mp hx
      exact d.not_taken flaw (d.members_taken keys values all) finished

theorem starts_of_flawed {parts : List (Part ρ)} {t : List Char} (h : Flawed parts t) :
    Starts t := by
  cases h with
  | object inside keys values flaw => exact ⟨_, _, rfl, rfl, by decide⟩

end Description

end Outbox.Json
