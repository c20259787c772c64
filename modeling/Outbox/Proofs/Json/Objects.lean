import Outbox.Proofs.Json.Skipping

/-!
# Objects and lists in any layout

How the members of an object and the elements of a list follow each other, whatever blanks stand
between them. The first one is taken like the others (`object_eq`).
-/

namespace Outbox.Json

section Members

variable {σ : Type} {member : σ → String → Reader σ} {state state' : σ} {n : Nat} {s rest : Input}

/-- A member as it stands in an object, after the opening quote of its key. -/
def Member.inner (m : Member) (rest : Input) : Input :=
  m.key ++ '"' :: (m.afterKey ++ ':' :: (m.afterColon ++ (m.value ++ (m.after ++ rest))))

theorem Member.text_append (m : Member) (rest : Input) :
    m.text ++ rest = m.before ++ '"' :: m.inner rest := by
  simp [text, keyText, inner]

theorem nextMember_comma (m : Member) (rest : Input) :
    nextMember false (',' :: (m.text ++ rest)) = .ok (.element (m.inner rest)) := by
  have comma := skipSpace_cons (c := ',') rfl
  have quote := skipSpace_cons (c := '"') rfl
  rw [m.text_append]
  simp [nextMember, comma, skipSpace_blank, quote]

theorem nextMember_first (inside : Blank) (m : Member) (rest : Input) :
    nextMember true (inside ++ (m.text ++ rest)) = .ok (.element (m.inner rest)) := by
  have quote := skipSpace_cons (c := '"') rfl
  rw [m.text_append]
  simp [nextMember, skipSpace_blank, quote]

theorem members_blank (w : Blank) (first : Bool) (s : Input) :
    members member n first state (w ++ s) = members member n first state s := by
  cases n with
  | zero => rfl
  | succ n => simp only [members, nextMember, skipSpace_blank]

/-- The members of an object are taken one after the other, the first one as the others. -/
theorem object_eq (member : σ → String → Reader σ) (state : σ) (inside : Blank)
    (ms : List Member) (rest : Input) :
    ∃ n > ms.length, object member state
        (inside ++ (commaSeparated (ms.map Member.text) ++ '}' :: rest)) =
      members member n false state (Frame.object.later (ms.map Member.piece) rest) := by
  cases ms with
  | nil =>
    refine ⟨(inside ++ '}' :: rest).length + 1, Nat.succ_pos _, ?_⟩
    have close := skipSpace_cons (c := '}') rfl
    rw [object, members_blank]
    simp [members, nextMember, commaSeparated, Frame.later, Frame.closing, close]
  | cons m ms =>
    have whole := Frame.object.commaSeparated_later m.piece (ms.map Member.piece) rest
    rw [← List.map_cons, List.map_map] at whole
    have long := Frame.object.length_later (ms.map Member.piece) rest
    rw [List.length_map] at long
    have enough : ms.length <
        (inside ++ (m.text ++ Frame.object.later (ms.map Member.piece) rest)).length := by
      simp only [List.length_append]
      omega
    refine ⟨_, Nat.succ_lt_succ enough, ?_⟩
    rw [show commaSeparated ((m :: ms).map Member.text) ++ '}' :: rest = _ from whole, List.map_cons,
      Frame.later_cons]
    simp only [object, members, Member.piece, nextMember_first, nextMember_comma]

/-- What is left of a member after its key. -/
def Member.tail (m : Member) (rest : Input) : Input :=
  m.afterKey ++ ':' :: (m.afterColon ++ (m.value ++ (m.after ++ rest)))

theorem Member.skipColon_tail (m : Member) (rest : Input) :
    skipColon (m.tail rest) = .ok (m.afterColon ++ (m.value ++ (m.after ++ rest))) := by
  have colon := skipSpace_cons (c := ':') rfl
  simp [tail, skipColon, skipSpace_blank, colon]

/-- A member is taken under the key that is spelled. -/
theorem members_next {m : Member} {key : String} (spells : SpellsText key m.key)
    (h : member state key (m.tail rest) = .ok (state', m.after ++ rest)) :
    members member (n + 1) false state (',' :: (m.text ++ rest)) =
      members member n false state' rest := by
  have body : textBody (m.inner rest) = .ok (key, m.tail rest) := textBody_spells spells _
  simp only [members, nextMember_comma, body, h, members_blank]

/-- What has happened where members are taken: the object ends, or one more is taken. -/
theorem members_cases {first : Bool} {x : σ × Input}
    (h : members member (n + 1) first state s = .ok x) :
    (∃ t, nextMember first s = .ok (.closed t) ∧ x = (state, t)) ∨
    ∃ t key s₁ state₁ s₂, nextMember first s = .ok (.element t) ∧ textBody t = .ok (key, s₁) ∧
      member state key s₁ = .ok (state₁, s₂) ∧ members member n false state₁ s₂ = .ok x := by
  unfold members at h
  split at h
  · cases h
  · next t hn => exact .inl ⟨t, hn, (Except.ok.inj h).symm⟩
  · next t hn =>
    split at h
    · cases h
    · next key s₁ body =>
      split at h
      · cases h
      · next state₁ s₂ hm => exact .inr ⟨t, key, s₁, state₁, s₂, hn, body, hm, h⟩

/-- Where the members are taken, the first one has been taken under a key that is spelled. -/
theorem members_next_cases {m : Member} (content : IsContent m.key) {x : σ × Input}
    (h : members member (n + 1) false state (',' :: (m.text ++ rest)) = .ok x) :
    ∃ key state₁ s₂, SpellsText key m.key ∧ member state key (m.tail rest) = .ok (state₁, s₂) ∧
      members member n false state₁ s₂ = .ok x := by
  rcases members_cases h with ⟨t, hn, -⟩ | ⟨t, key, s₁, state₁, s₂, hn, body, hm, more⟩
  · cases hn.symm.trans (nextMember_comma m rest)
  · cases hn.symm.trans (nextMember_comma m rest)
    obtain ⟨rfl, spells⟩ := textBody_content content body
    exact ⟨key, state₁, s₂, spells, hm, more⟩

theorem members_nil : members member (n + 1) false state ('}' :: rest) = .ok (state, rest) := by
  have close := skipSpace_cons (c := '}') rfl
  simp only [members, nextMember, close, if_true]

theorem members_end {x : σ × Input} (h : members member n false state ('}' :: rest) = .ok x) :
    x = (state, rest) := by
  have close := skipSpace_cons (c := '}') rfl
  cases n with
  | zero => cases h
  | succ n =>
    simp only [members, nextMember, close, if_true] at h
    exact (Except.ok.inj h).symm

/-! ### What members pass over -/

/-- What is taken after a key is a colon and a value. -/
def MemberFollows (member : σ → String → Reader σ) : Prop :=
  ∀ state key s state' r, member state key s = .ok (state', r) →
    ∃ t, skipColon s = .ok t ∧ ∀ stack, ∃ k, Leads k .before stack t .after stack r

theorem nextMember_cases {first : Bool} {next : Next} (h : nextMember first s = .ok next) :
    (∃ t, skipSpace s = '}' :: t ∧ next = .closed t) ∨
    ∃ u t, skipSpace u = '"' :: t ∧ next = .element t ∧
      if first then skipSpace s = '"' :: t else skipSpace s = ',' :: u := by
  unfold nextMember at h
  split at h
  · cases h
  · next c t ht =>
    split_ifs at h with close isFirst quote comma
    · subst close
      exact .inl ⟨t, ht, (Except.ok.inj h).symm⟩
    · subst quote
      exact .inr ⟨s, t, ht, (Except.ok.inj h).symm, by simp [isFirst, ht]⟩
    · subst comma
      split at h
      · cases h
      · next t' ht' => exact .inr ⟨t, t', ht', (Except.ok.inj h).symm, by simp [isFirst, ht]⟩
      · cases h
      · cases h

theorem skipColon_cases (h : skipColon s = .ok rest) : skipSpace s = ':' :: rest := by
  unfold skipColon at h
  split at h
  · cases h
  · next hs => exact hs.trans (by rw [Except.ok.inj h])
  · cases h

/-- A key with its colon is passed over. -/
theorem skipKey_of_textBody {u t s₁ v : Input} {key : String} (hu : skipSpace u = '"' :: t)
    (body : textBody t = .ok (key, s₁)) (colon : skipColon s₁ = .ok v) : skipKey u = .ok v := by
  simp only [skipKey, hu, skipText_of_textBody body, skipColon_cases colon]

/-- A member that is taken is passed over from its key to its end. -/
theorem member_follows (follows : MemberFollows member) {u t s₁ s₂ : Input} {key : String}
    (hu : skipSpace u = '"' :: t) (body : textBody t = .ok (key, s₁))
    (h : member state key s₁ = .ok (state', s₂)) (stack : List Frame) :
    ∃ v k, skipKey u = .ok v ∧ Leads k .before stack v .after stack s₂ := by
  obtain ⟨v, colon, value⟩ := follows _ _ _ _ _ h
  obtain ⟨k, leads⟩ := value stack
  exact ⟨v, k, skipKey_of_textBody hu body colon, leads⟩

theorem members_follows (follows : MemberFollows member) {r : Input}
    (h : members member n false state s = .ok (state', r)) (stack : List Frame) :
    ∃ k, Leads k .after (.object :: stack) s .after stack r := by
  induction n generalizing state s with
  | zero => cases h
  | succ n ih =>
    rcases members_cases h with ⟨t, hn, eq⟩ | ⟨t, key, s₁, state₁, s₂, hn, body, hm, more⟩
    · cases eq
      rcases nextMember_cases hn with ⟨t', ht, ⟨⟩⟩ | ⟨_, _, -, ⟨⟩, -⟩
      exact ⟨1, (SkipStep.close ht).leads⟩
    · rcases nextMember_cases hn with ⟨_, -, ⟨⟩⟩ | ⟨u, t', hu, ⟨⟩, hs⟩
      obtain ⟨v, k, key, value⟩ := member_follows follows hu body hm (.object :: stack)
      obtain ⟨l, later⟩ := ih more
      exact ⟨_, (SkipStep.comma hs (show Frame.object.enter u = _ from key)).leads.trans
        (value.trans later)⟩

/-- An object that is taken is passed over. -/
theorem object_follows (follows : MemberFollows member) {t r : Input} (ht : skipSpace t = '{' :: s)
    (h : object member state s = .ok (state', r)) (stack : List Frame) :
    ∃ k, Leads k .before stack t .after stack r := by
  rcases members_cases h with ⟨t', hn, eq⟩ | ⟨t', key, s₁, state₁, s₂, hn, body, hm, more⟩
  · cases eq
    rcases nextMember_cases hn with ⟨_, hs, ⟨⟩⟩ | ⟨_, _, -, ⟨⟩, -⟩
    exact ⟨1, (SkipStep.empty ht rfl hs).leads⟩
  · rcases nextMember_cases hn with ⟨_, -, ⟨⟩⟩ | ⟨u, t', hu, ⟨⟩, hs⟩
    have quote : skipSpace ('"' :: t') = '"' :: t' := skipSpace_cons rfl t'
    obtain ⟨v, k, entered, value⟩ := member_follows follows quote body hm (.object :: stack)
    obtain ⟨l, later⟩ := members_follows follows more stack
    exact ⟨_, (SkipStep.enter ht rfl hs (by decide)
      (show Frame.object.enter ('"' :: t') = _ from entered)).leads.trans (value.trans later)⟩

end Members

/-! ### Elements -/

section Elements

variable {s t rest : Input} {c : Char}

theorem nextElement_comma (hs : skipSpace s = c :: t) (more : c ≠ ']') :
    nextElement false (',' :: s) = .ok (.element (c :: t)) := by
  have comma := skipSpace_cons (c := ',') rfl
  simp [nextElement, comma, hs, more]

theorem nextElement_first (hs : skipSpace s = c :: t) (more : c ≠ ']') :
    nextElement true s = .ok (.element (c :: t)) := by
  simp [nextElement, hs, more]

theorem nextElement_end (first : Bool) (hs : skipSpace s = ']' :: t) :
    nextElement first s = .ok (.closed t) := by
  simp [nextElement, hs]

theorem nextElement_cases {first : Bool} {next : Next} (h : nextElement first s = .ok next) :
    (∃ t, skipSpace s = ']' :: t ∧ next = .closed t) ∨
    ∃ u c t, skipSpace u = c :: t ∧ c ≠ ']' ∧ next = .element (c :: t) ∧
      if first then skipSpace s = c :: t else skipSpace s = ',' :: u := by
  unfold nextElement at h
  split at h
  · cases h
  · next c t ht =>
    split_ifs at h with close isFirst comma
    · subst close
      exact .inl ⟨t, ht, (Except.ok.inj h).symm⟩
    · exact .inr ⟨s, c, t, ht, close, (Except.ok.inj h).symm, by simp [isFirst, ht]⟩
    · subst comma
      split at h
      · cases h
      · cases h
      · next more empty =>
        obtain ⟨d, u, hu⟩ := List.exists_cons_of_ne_nil more
        refine .inr ⟨t, d, u, hu, ?_, (hu ▸ Except.ok.inj h).symm, by simp [isFirst, ht]⟩
        rintro rfl
        exact empty u hu

theorem closeList_cases (h : closeList s = .ok rest) : skipSpace s = ']' :: rest := by
  unfold closeList at h
  split at h
  · cases h
  · next ht => exact ht.trans (by rw [Except.ok.inj h])
  · split at h <;> cases h
  · cases h

end Elements

end Outbox.Json
