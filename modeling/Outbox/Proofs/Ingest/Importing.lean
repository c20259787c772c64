import Outbox.Proofs.Ingest.Lines
import Outbox.Proofs.Store.Gains
import Outbox.Proofs.Text.Utf8
import Outbox.Store.Tamper

/-!
# What becomes of the lines of an import

Each line of an import is blank, told as no event, told as refused, or recorded: an import accounts
for every line (`Accounts`), whatever the bytes and the store, and if it ends early, for every line
before its end (`import_accounted`). What is recorded stays, unless it was recorded in a transaction
that others have begun and that is undone because no number is left (`import_undone`).
-/

namespace Outbox

namespace Ingestor

variable {i : Ingestor} {user : String}

/-! ### One line -/

/-- The last known position, if it is used. -/
def position (i : Ingestor) (t : Target) : Option GeoPoint :=
  if i.located then t.location.point else none

/-- Where an event is refused, nothing is stored, and only an open transaction can be undone. -/
theorem record_error {e : Event} {t t' : Target} {fault : StoreFault}
    (h : i.record e t = (.error fault, t')) :
    (t'.store = t.store ∨
        t.store.saved ≠ none ∧ t'.store = t.store.undone ∧ fault = .database .full) ∧
      t'.location = t.location := by
  rw [record, ← position] at h
  rcases t.store.append_result (e.prepared (i.position t)) with
    ⟨fault, ha⟩ | ⟨unsettled, ha⟩ | ⟨id, table, u, -, -, ha⟩
  · rw [ha] at h
    cases h
    exact ⟨.inl rfl, rfl⟩
  · rw [ha] at h
    cases h
    exact ⟨.inr ⟨unsettled, rfl, rfl⟩, rfl⟩
  · rw [ha] at h
    cases h

/-- An event that is recorded is a new row, with the last known position. -/
theorem record_ok {e : Event} {t t' : Target} {id : RecordId}
    (h : i.record e t = (.ok id, t')) :
    (∃ table u, t.store.live.events = .table table ∧
      table.insert (e.prepared (i.position t)) = .ok (id, u) ∧ t'.store = t.store.withTable u) ∧
      t'.location = t.location := by
  rw [record, ← position] at h
  rcases t.store.append_result (e.prepared (i.position t)) with
    ⟨fault, ha⟩ | ⟨-, ha⟩ | ⟨id, table, u, ht, hi, ha⟩
  · rw [ha] at h
    cases h
  · rw [ha] at h
    cases h
  · rw [ha] at h
    cases h
    exact ⟨⟨table, u, ht, hi, rfl⟩, rfl⟩

/-- All that a line can do. -/
theorem importLine_cases (i : Ingestor) (user : String) (n : Nat) (text : String)
    (summary : ImportSummary) (t : Target) :
    (Text.Blank text ∧ i.importLine user n text (summary, t) = (summary, t)) ∨
    (¬ Text.Blank text ∧ ∃ fault, Event.ofJson text = .error fault ∧
      i.importLine user n text (summary, t) =
        ({ summary with failed := summary.failed ++ [(n, fault)] }, t)) ∨
    (¬ Text.Blank text ∧ ∃ e fault t', Event.ofJson text = .ok e ∧
      i.record (withUser user e) t = (.error fault, t') ∧
      i.importLine user n text (summary, t) =
        ({ summary with refused := summary.refused ++ [(n, fault)] }, t')) ∨
    (¬ Text.Blank text ∧ ∃ e id t', Event.ofJson text = .ok e ∧
      i.record (withUser user e) t = (.ok id, t') ∧
      i.importLine user n text (summary, t) =
        ({ summary with inserted := summary.inserted + 1 }, t')) := by
  unfold importLine
  by_cases blank : Text.Blank text
  · exact .inl ⟨blank, if_pos (Text.isBlankText_iff.mpr blank)⟩
  · simp only [if_neg fun h => blank (Text.isBlankText_iff.mp h)]
    cases he : Event.ofJson text with
    | error fault => exact .inr (.inl ⟨blank, fault, rfl, rfl⟩)
    | ok e =>
      rcases hr : i.record (withUser user e) t with ⟨fault | id, t'⟩
      · exact .inr (.inr (.inl ⟨blank, e, fault, t', rfl, hr, by simp only [hr]⟩))
      · exact .inr (.inr (.inr ⟨blank, e, id, t', rfl, hr, by simp only [hr]⟩))

/-! ### Many lines -/

/-- Imports texts, which are the lines from the first one on. -/
def importTexts (i : Ingestor) (user : String) (texts : List String) (t : Target) :
    ImportSummary × Target :=
  (texts.zipIdx 1).foldl (fun state line => i.importLine user line.2 line.1 state) ({}, t)

theorem importTexts_concat (i : Ingestor) (user : String) (texts : List String) (text : String)
    (t : Target) : i.importTexts user (texts ++ [text]) t =
      i.importLine user (texts.length + 1) text (i.importTexts user texts t) := by
  rw [importTexts, List.zipIdx_append, List.foldl_append, Nat.add_comm]
  rfl

/-- Lines that are texts are imported one after the other. -/
theorem importFrom_append (i : Ingestor) (user : String) (texts : List String)
    (rest : List Text.Bytes) (n : Nat) (state : ImportSummary × Target) :
    i.importFrom user n (texts.map Text.encode ++ rest) state =
      i.importFrom user (n + texts.length) rest ((texts.zipIdx n).foldl
        (fun state line => i.importLine user line.2 line.1 state) state) := by
  induction texts generalizing n state with
  | nil => rfl
  | cons text texts ih =>
    rw [List.map_cons, List.cons_append, importFrom, Text.decode?_eq_some_iff.mpr rfl]
    simp only [ih, List.zipIdx_cons, List.foldl_cons, List.length_cons]
    rw [Nat.add_assoc, Nat.add_comm 1]

theorem importFrom_eq_importTexts (i : Ingestor) (user : String) (texts : List String)
    (rest : List Text.Bytes) (t : Target) :
    i.importFrom user 1 (texts.map Text.encode ++ rest) ({}, t) =
      i.importFrom user (1 + texts.length) rest (i.importTexts user texts t) :=
  i.importFrom_append user texts rest 1 ({}, t)

end Ingestor

/-! ### What is told of the lines -/

section Told

variable {α : Type} {texts : List String} {text last : String} {n : Nat}
  {P Q : String → Nat → α → Prop} {told : List (Nat × α)}

theorem lines_concat :
    (texts ++ [last]).zipIdx 1 = texts.zipIdx 1 ++ [(last, texts.length + 1)] := by
  rw [List.zipIdx_append, List.zipIdx_singleton, Nat.add_comm 1]

theorem mem_lines_concat :
    (text, n) ∈ (texts ++ [last]).zipIdx 1 ↔
      (text, n) ∈ texts.zipIdx 1 ∨ text = last ∧ n = texts.length + 1 := by
  rw [lines_concat, List.mem_append, List.mem_singleton, Prod.mk.injEq]

theorem le_length_of_mem_lines (h : (text, n) ∈ texts.zipIdx 1) : 1 ≤ n ∧ n ≤ texts.length := by
  have := List.mem_zipIdx h
  omega

/-- What is told, line by line: the numbers of the lines of this kind, and why they are of it. -/
structure Told (texts : List String) (P : String → Nat → α → Prop) (told : List (Nat × α)) :
    Prop where
  mem : ∀ n a, (n, a) ∈ told ↔ ∃ text, (text, n) ∈ texts.zipIdx 1 ∧ P text n a
  ascending : told.Pairwise fun x y => x.1 < y.1

theorem Told.le_length (h : Told texts P told) {x : Nat × α} (hx : x ∈ told) :
    x.1 ≤ texts.length := by
  obtain ⟨text, hm, -⟩ := (h.mem x.1 x.2).mp hx
  exact (le_length_of_mem_lines hm).2

/-- One more line, of which something may be told. -/
theorem Told.concat (h : Told texts P told) (last : String) (new : Option α)
    (hold : ∀ text n a, n ≤ texts.length → (Q text n a ↔ P text n a))
    (hnew : ∀ a, Q last (texts.length + 1) a ↔ new = some a) :
    Told (texts ++ [last]) Q (told ++ new.toList.map fun a => (texts.length + 1, a)) := by
  constructor
  · intro n a
    have earlier : (∃ text, (text, n) ∈ texts.zipIdx 1 ∧ Q text n a) ↔ (n, a) ∈ told := by
      rw [h.mem]
      refine exists_congr fun text => and_congr_right fun hm => ?_
      exact hold text n a (le_length_of_mem_lines hm).2
    have later : (n, a) ∈ (new.toList.map fun a => (texts.length + 1, a)) ↔
        n = texts.length + 1 ∧ new = some a := by
      cases new with
      | none => simp
      | some b => simp [eq_comm]
    rw [List.mem_append, later, ← earlier]
    constructor
    · rintro (⟨text, hm, hq⟩ | ⟨rfl, ha⟩)
      · exact ⟨text, mem_lines_concat.mpr (.inl hm), hq⟩
      · exact ⟨last, mem_lines_concat.mpr (.inr ⟨rfl, rfl⟩), (hnew a).mpr ha⟩
    · rintro ⟨text, hm, hq⟩
      rcases mem_lines_concat.mp hm with hm | ⟨rfl, rfl⟩
      · exact .inl ⟨text, hm, hq⟩
      · exact .inr ⟨rfl, (hnew a).mp hq⟩
  · refine List.pairwise_append.mpr ⟨h.ascending, ?_, ?_⟩
    · cases new with
      | none => exact .nil
      | some b => exact List.pairwise_singleton _ _
    · intro x hx y hy
      obtain ⟨a, -, rfl⟩ := List.mem_map.mp hy
      exact Nat.lt_succ_of_le (h.le_length hx)

end Told

namespace Ingestor

variable {i : Ingestor} {user : String} {t t' : Target} {texts : List String}
  {summary : ImportSummary}

/-- A line is not blank, but no event. -/
def Fails (text : String) (_ : Nat) (fault : Json.Fault) : Prop :=
  ¬ Text.Blank text ∧ Event.ofJson text = .error fault

/-- A line is an event that cannot be recorded when the lines before it were imported. -/
def Refuses (i : Ingestor) (user : String) (t : Target) (texts : List String) (text : String)
    (n : Nat) (fault : StoreFault) : Prop :=
  ¬ Text.Blank text ∧ ∃ e, Event.ofJson text = .ok e ∧
    (i.record (withUser user e) (i.importTexts user (texts.take (n - 1)) t).2).1 = .error fault

/-- The event of a line, unless it is refused. -/
def accepted? (refused : List (Nat × StoreFault)) (line : String × Nat) : Option Event :=
  if Text.Blank line.1 ∨ line.2 ∈ refused.map (·.1) then none
  else
    match Event.ofJson line.1 with
    | .ok e => some e
    | .error _ => none

/-- The events of the lines that are left, in their order, as they are recorded. -/
def accepted (i : Ingestor) (user : String) (t : Target) (lines : List (String × Nat))
    (refused : List (Nat × StoreFault)) : List Event :=
  (lines.filterMap (accepted? refused)).map fun e => (withUser user e).prepared (i.position t)

/-- The store `s` with these records has come of the store `t`. Either nothing of `t` was taken
back, and `n` is zero, or a transaction that was open in `t` was undone at line `n`, for which no
number was left. -/
def Since (t : Store) (refused : List (Nat × StoreFault)) (n : Nat) (added : List Record)
    (s : Store) : Prop :=
  n = 0 ∧ t.Gains s added ∨
    t.saved ≠ none ∧ (n, .database .full) ∈ refused ∧ t.undone.Gains s added

/-- What a summary tells of an import, and what has become of its target. -/
structure Accounts (i : Ingestor) (user : String) (t : Target) (texts : List String)
    (summary : ImportSummary) (t' : Target) : Prop where
  counted : summary.inserted + summary.failed.length + summary.refused.length =
    texts.countP fun text => ¬ Text.Blank text
  failed : Told texts Fails summary.failed
  refused : Told texts (i.Refuses user t texts) summary.refused
  disjoint : ∀ x ∈ summary.failed, ∀ y ∈ summary.refused, x.1 ≠ y.1
  inserted : summary.inserted = (i.accepted user t (texts.zipIdx 1) summary.refused).length
  /-- The store has the events of the lines after the one that has undone a transaction of others,
  which are all of them if there is no such line. -/
  stored : ∃ n added, Since t.store summary.refused n added t'.store ∧
    added.map (·.event) = i.accepted user t ((texts.zipIdx 1).drop n) summary.refused
  location : t'.location = t.location

/-- A line that is refused is an event, and so does not fail. -/
theorem disjoint_of_told {failed : List (Nat × Json.Fault)} {refused : List (Nat × StoreFault)}
    (hf : Told texts Fails failed) (hr : Told texts (i.Refuses user t texts) refused) :
    ∀ x ∈ failed, ∀ y ∈ refused, x.1 ≠ y.1 := by
  rintro ⟨n, fault⟩ hx ⟨m, refusal⟩ hy (rfl : n = m)
  obtain ⟨text, hm, -, he⟩ := (hf.mem n fault).mp hx
  obtain ⟨text', hm', -, e, he', -⟩ := (hr.mem n refusal).mp hy
  rw [List.mk_mem_zipIdx_iff_le_and_getElem?_sub] at hm hm'
  cases hm.2.symm.trans hm'.2
  rw [he] at he'
  cases he'

theorem refuses_concat {last text : String} {n : Nat} (hn : n ≤ texts.length) (fault : StoreFault) :
    i.Refuses user t (texts ++ [last]) text n fault ↔ i.Refuses user t texts text n fault := by
  rw [Refuses, Refuses, List.take_append_of_le_length (by omega)]

theorem accepted?_congr {refused refused' : List (Nat × StoreFault)} {line : String × Nat}
    (h : line.2 ∈ refused.map (·.1) ↔ line.2 ∈ refused'.map (·.1)) :
    accepted? refused line = accepted? refused' line := by
  simp only [accepted?, h]

/-- A line is accepted after the others, unless it is refused. -/
theorem accepted_concat (i : Ingestor) (user : String) (t : Target) {lines : List (String × Nat)}
    {refused : List (Nat × StoreFault)} {n : Nat} (hl : ∀ line ∈ lines, line.2 ≤ n)
    (h : ∀ x ∈ refused, x.1 ≤ n) (last : String) (refusal : Option StoreFault) :
    i.accepted user t (lines ++ [(last, n + 1)])
        (refused ++ refusal.toList.map fun fault => (n + 1, fault)) =
      i.accepted user t lines refused ++
        (if refusal.isSome then none else accepted? [] (last, n + 1)).toList.map
          fun e => (withUser user e).prepared (i.position t) := by
  have among : n + 1 ∉ refused.map (·.1) := by
    intro hm
    obtain ⟨x, hx, hn⟩ := List.mem_map.mp hm
    have := h x hx
    omega
  have earlier : ∀ line ∈ lines,
      accepted? (refused ++ refusal.toList.map fun fault => (n + 1, fault)) line =
        accepted? refused line := by
    intro line hm
    have new : line.2 ≠ n + 1 := Nat.ne_of_lt (Nat.lt_succ_of_le (hl line hm))
    refine accepted?_congr ?_
    cases refusal with
    | none => simp
    | some fault => simp [new]
  have later : accepted? (refused ++ refusal.toList.map fun fault => (n + 1, fault)) (last, n + 1) =
      if refusal.isSome then none else accepted? [] (last, n + 1) := by
    cases refusal with
    | none =>
      simp only [Option.toList_none, List.map_nil, List.append_nil, Option.isSome_none,
        Bool.false_eq_true, if_false]
      exact accepted?_congr (iff_of_false among List.not_mem_nil)
    | some fault =>
      simp only [Option.isSome_some, if_true]
      exact if_pos (.inr (by simp))
  have singleton (f : String × Nat → Option Event) (line : String × Nat) :
      [line].filterMap f = (f line).toList := by
    rw [List.filterMap_eq_flatMap_toList, List.flatMap_singleton]
  rw [accepted, accepted, List.filterMap_append, List.map_append, List.filterMap_congr earlier,
    singleton, later]

/-- What one line does to the store: it undoes an open transaction, or adds records to it. -/
def Adds (refusal : Option StoreFault) (s : Store) (events : List Event) (s' : Store) : Prop :=
  refusal = some (.database .full) ∧ s.saved ≠ none ∧ s' = s.undone ∨
    ∃ new : List Record, new.map (·.event) = events ∧
      ∀ (before : Store) (added : List Record), before.Gains s added →
        before.Gains s' (added ++ new)

theorem Adds.refl (refusal : Option StoreFault) (s : Store) : Adds refusal s [] s :=
  .inr ⟨[], rfl, fun _ _ h => by rwa [List.append_nil]⟩

/-- After one more line a store has taken everything back, or has some more records. -/
theorem Since.concat {s u : Store} {refused : List (Nat × StoreFault)} {n : Nat}
    {added : List Record} {refusal : Option StoreFault} {events : List Event}
    (h : Since t.store refused n added s) (line : Nat) (one : Adds refusal s events u) :
    let refused := refused ++ refusal.toList.map fun fault => (line, fault)
    Since t.store refused line [] u ∨
      ∃ new : List Record, new.map (·.event) = events ∧ Since t.store refused n (added ++ new) u := by
  rcases one with ⟨rfl, unsettled, undone⟩ | ⟨new, events, gains⟩
  · -- Nothing was undone before, since the transaction is still open.
    rcases h with ⟨-, since⟩ | ⟨-, -, since⟩
    · have before : t.store.saved ≠ none := since.saved ▸ unsettled
      refine .inl (.inr ⟨before, by simp, ?_⟩)
      rw [undone, since.undone before]
      exact .refl _
    · exact absurd since.saved unsettled
  · rcases h with ⟨rfl, since⟩ | ⟨before, hn, since⟩
    · exact .inr ⟨new, events, .inl ⟨rfl, gains _ _ since⟩⟩
    · exact .inr ⟨new, events, .inr ⟨before, List.mem_append_left _ hn, gains _ _ since⟩⟩

/-- The line from which on the records are there is one of those that were imported. -/
theorem Since.le_length {s : Store} {refused : List (Nat × StoreFault)} {n : Nat}
    {added : List Record} (h : Since t.store refused n added s)
    (told : Told texts (i.Refuses user t texts) refused) : n ≤ texts.length := by
  rcases h with ⟨rfl, -⟩ | ⟨-, hn, -⟩
  · exact Nat.zero_le _
  · exact told.le_length hn

/-- One more line is accounted for when it is told for what it is, and stored if it is to be. -/
theorem Accounts.concat (h : Accounts i user t texts summary t') {last : String} {u : Target}
    (failure : Option Json.Fault) (refusal : Option StoreFault) (event : Option Event)
    (hf : ∀ fault, Fails last (texts.length + 1) fault ↔ failure = some fault)
    (hr : ∀ fault, i.Refuses user t (texts ++ [last]) last (texts.length + 1) fault ↔
      refusal = some fault)
    (he : (if refusal.isSome then none else accepted? [] (last, texts.length + 1)) = event)
    (one : event.toList.length + failure.toList.length + refusal.toList.length =
      if Text.Blank last then 0 else 1)
    (hs : Adds refusal t'.store
      (event.toList.map fun e => (withUser user e).prepared (i.position t)) u.store)
    (hl : u.location = t'.location) :
    Accounts i user t (texts ++ [last])
      { inserted := summary.inserted + event.toList.length
        failed := summary.failed ++ failure.toList.map fun fault => (texts.length + 1, fault)
        refused := summary.refused ++ refusal.toList.map fun fault => (texts.length + 1, fault) }
      u := by
  have among : ∀ line ∈ texts.zipIdx 1, line.2 ≤ texts.length :=
    fun line hm => (le_length_of_mem_lines hm).2
  have accepted {lines : List (String × Nat)} (hm : ∀ line ∈ lines, line ∈ texts.zipIdx 1) :=
    accepted_concat i user t (fun line hl => among line (hm line hl))
      (fun x hx => h.refused.le_length hx) last refusal
  simp only [he] at accepted
  have failed := h.failed.concat last failure (fun _ _ _ _ => Iff.rfl) hf
  have refused := h.refused.concat last refusal (fun _ _ fault hn => refuses_concat hn fault) hr
  refine ⟨?_, failed, refused, disjoint_of_told failed refused, ?_, ?_, hl.trans h.location⟩
  · have counts : (if decide (¬ Text.Blank last) = true then 1 else 0) =
        if Text.Blank last then 0 else 1 := by
      by_cases blank : Text.Blank last <;> simp [blank]
    rw [List.countP_append, List.countP_singleton, ← h.counted, counts, ← one]
    simp only [List.length_append, List.length_map]
    omega
  · rw [lines_concat, accepted fun _ hm => hm, h.inserted, List.length_append, List.length_map]
  · obtain ⟨n, added, since, events⟩ := h.stored
    rcases since.concat (texts.length + 1) hs with later | ⟨new, events', later⟩
    · refine ⟨texts.length + 1, [], later, ?_⟩
      rw [List.drop_eq_nil_of_le (by simp)]
      rfl
    · refine ⟨n, added ++ new, later, ?_⟩
      have hn : n ≤ (texts.zipIdx 1).length := by
        rw [List.length_zipIdx]
        exact since.le_length h.refused
      rw [List.map_append, events, events', lines_concat, List.drop_append_of_le_length hn,
        accepted fun _ hm => List.mem_of_mem_drop hm]

theorem Accounts.nil (i : Ingestor) (user : String) (t : Target) :
    Accounts i user t [] {} t where
  counted := rfl
  failed := ⟨by simp, .nil⟩
  refused := ⟨by simp, .nil⟩
  disjoint := by simp
  inserted := rfl
  stored := ⟨0, [], .inl ⟨rfl, .refl _⟩, rfl⟩
  location := rfl

/-- An import accounts for every line. -/
theorem accounts_importTexts (i : Ingestor) (user : String) (t : Target) (texts : List String) :
    Accounts i user t texts (i.importTexts user texts t).1 (i.importTexts user texts t).2 := by
  -- From the last line on, since a line is refused or not by what the lines before it have done.
  induction texts using List.reverseRecOn with
  | nil => exact .nil i user t
  | append_singleton texts last ih =>
    have refuses : ∀ fault,
        i.Refuses user t (texts ++ [last]) last (texts.length + 1) fault ↔
          ¬ Text.Blank last ∧ ∃ e, Event.ofJson last = .ok e ∧
            (i.record (withUser user e) (i.importTexts user texts t).2).1 = .error fault := by
      intro fault
      rw [Refuses, Nat.add_sub_cancel, List.take_left]
    rw [importTexts_concat]
    generalize i.importTexts user texts t = state at ih refuses
    obtain ⟨summary, t'⟩ := state
    rcases i.importLine_cases user (texts.length + 1) last summary t' with
      ⟨blank, hi⟩ | ⟨text, fault, he, hi⟩ | ⟨text, e, fault, u, he, hr, hi⟩ |
        ⟨text, e, id, u, he, hr, hi⟩
    · have one : Accounts i user t (texts ++ [last]) _ t' :=
        ih.concat none none none (by simp [Fails, blank]) (by simp [refuses, blank])
          (by simp [accepted?, blank]) (by simp [blank]) (.refl _ _) rfl
      rw [hi]
      simpa using one
    · have one : Accounts i user t (texts ++ [last]) _ t' :=
        ih.concat (some fault) none none (by simp [Fails, text, he]) (by simp [refuses, he])
          (by simp [accepted?, he]) (by simp [text]) (.refl _ _) rfl
      rw [hi]
      simpa using one
    · obtain ⟨kept, location⟩ := record_error hr
      have undisturbed : Adds (some fault) t'.store [] u.store := by
        rcases kept with same | ⟨unsettled, undone, rfl⟩
        · exact same ▸ .refl _ _
        · exact .inl ⟨rfl, unsettled, undone⟩
      have one : Accounts i user t (texts ++ [last]) _ u :=
        ih.concat none (some fault) none (by simp [Fails, he]) (by simp [refuses, text, he, hr])
          rfl (by simp [text]) undisturbed location
      rw [hi]
      simpa using one
    · obtain ⟨⟨table, table', ht, insert, hu⟩, location⟩ := record_ok hr
      have here : i.position t' = i.position t := by rw [position, position, ih.location]
      rw [here] at insert
      have one : Accounts i user t (texts ++ [last]) _ u :=
        ih.concat none none (some e) (by simp [Fails, he]) (by simp [refuses, he, hr])
          (by simp [accepted?, text, he]) (by simp [text])
          (.inr ⟨_, rfl, fun _ _ gains => hu ▸ gains.insert ht insert⟩) location
      rw [hi]
      simpa using one

/-- Whatever the bytes and the store, an import ends with the source, or early at a line that is no
text, and accounts for every line before its end. -/
theorem import_accounted (i : Ingestor) (user : String) (source : Source) (t : Target) :
    ∃ lines texts ended summary t', source.Lined lines ∧
      (lines = texts.map Text.encode ∧ ended = source.fault ∨
        ∃ line rest, lines = texts.map Text.encode ++ line :: rest ∧
          (∀ text, Text.encode text ≠ line) ∧ ended = some .notText) ∧
      i.importSource user source t =
        (match ended with
          | none => .ok summary
          | some fault => .error fault, t') ∧
      Accounts i user t texts summary t' := by
  have lined : source.Lined source.lines := Source.lined_iff.mpr rfl
  rcases Text.encoded_cases source.lines with ⟨texts, h⟩ | ⟨texts, line, rest, h, hn⟩
  · refine ⟨_, texts, source.fault, _, _, lined, .inl ⟨h, rfl⟩, ?_,
      i.accounts_importTexts user t texts⟩
    have read := i.importFrom_eq_importTexts user texts [] t
    rw [List.append_nil] at read
    rw [importSource, h, read, importFrom]
    cases source.fault with
    | none => rfl
    | some fault => rfl
  · refine ⟨_, texts, some .notText, _, _, lined, .inr ⟨line, rest, h, ?_, rfl⟩, ?_,
      i.accounts_importTexts user t texts⟩
    · intro text encoded
      rw [Text.decode?_eq_some_iff.mpr encoded] at hn
      cases hn
    · rw [importSource, h, importFrom_eq_importTexts, importFrom, hn]

/-- A line with an event. -/
def eventLine : String := "\x7b\"app_uid\":1,\"protocol\":\"\",\"start_ts\":0,\"end_ts\":0\x7d"

/-- The line, twice. -/
def eventTwice : Source :=
  { content := Text.encode eventLine ++ lineFeed :: (Text.encode eventLine ++ [lineFeed]) }

/-- A store with an open transaction, in which one number is left. -/
def oneLeft : Store :=
  ((Store.inMemory.migrate.2.tamper .begin).2.tamper (.setSequence 9223372036854775806)).2

theorem lined_eventTwice : eventTwice.Lined [Text.encode eventLine, Text.encode eventLine] :=
  have bare : (Text.encode eventLine).getLast? ≠ some carriageReturn := by decide
  have whole : lineFeed ∉ Text.encode eventLine := by decide
  .feed whole bare (.feed whole bare .nil)

/-- The second event finds no number, and the first one is gone with the transaction, though it
counts as inserted. -/
theorem import_undone :
    ∃ summary t', importSource {} "" eventTwice { store := oneLeft } = (.ok summary, t') ∧
      summary.inserted = 1 ∧ summary.refused = [(2, .database .full)] ∧ t'.store.rows = [] ∧
      ¬ ∃ added, oneLeft.Gains t'.store added ∧ added.map (·.event) =
        accepted {} "" { store := oneLeft } ([eventLine, eventLine].zipIdx 1) summary.refused := by
  have decoded : Text.decode? (Text.encode eventLine) = some eventLine :=
    Text.decode?_eq_some_iff.mpr rfl
  have result : importSource {} "" eventTwice { store := oneLeft } =
      (.ok { inserted := 1, refused := [(2, .database .full)] },
        { store := oneLeft.undone }) := by
    rw [importSource, Source.lined_iff.mp lined_eventTwice]
    simp only [importFrom, decoded]
    rfl
  refine ⟨_, _, result, rfl, rfl, rfl, ?_⟩
  rintro ⟨added, gains, events⟩
  have none : [] ++ added.map Row.ofRecord = [] := gains.rows.symm
  rw [List.nil_append, List.map_eq_nil_iff] at none
  rw [none] at events
  have filled : ¬ Text.Blank eventLine := by decide
  have event : Event.ofJson eventLine =
      .ok { appUid := 1, protocol := "", startTime := 0, endTime := 0 } := rfl
  simp [accepted, accepted?, filled, event] at events

end Ingestor

end Outbox
