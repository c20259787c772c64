import Outbox.Proofs.Binary64.Range
import Outbox.Proofs.Ingest.Triggering
import Outbox.Proofs.Store.Views
import Outbox.Proofs.Text.Trimming

/-!
# What is recorded of an event

An event is stored with its own position or else with the last finite one that was told since it was
forgotten, and with what was seen of a request only if its protocol spells HTTP without encryption
(`CapturedAs`). It is found under the number that is told, and one that is refused leaves everything
as it was (`capture_exact`), but for a transaction of others in which no number is left
(`capture_undone`).
-/

namespace Outbox

/-! ### Events of HTTP without encryption -/

/-- The word `http`, each letter in either case. -/
inductive HttpWord : List Char → Prop
  | letters {h t t' p : Char} (first : h = 'h' ∨ h = 'H') (second : t = 't' ∨ t = 'T')
      (third : t' = 't' ∨ t' = 'T') (fourth : p = 'p' ∨ p = 'P') : HttpWord [h, t, t', p]

/-- Between blanks stands the word `http`, alone or with a slash and anything after it. -/
def CleartextHttp (protocol : String) : Prop :=
  ∃ front word back, protocol.toList = front ++ (word ++ back) ∧
    (∀ c ∈ front, Text.isBlank c = true) ∧ HttpWord word ∧
    ((∀ c ∈ back, Text.isBlank c = true) ∨ ∃ version, back = '/' :: version)

namespace Event

/-- A character in lower case comes of itself or of the letter in upper case. -/
theorem lowered_cases {c d : Char} (h : lowered c = d) :
    c = d ∨ 'A'.toNat ≤ c.toNat ∧ c.toNat ≤ 'Z'.toNat ∧ c.toNat + 32 = d.toNat := by
  unfold lowered at h
  split at h
  · next upper =>
    refine .inr ⟨upper.1, upper.2, ?_⟩
    have valid : (c.toNat + 32).isValidChar := by
      have : 'Z'.toNat = 90 := rfl
      exact .inl (by omega)
    rw [← h, Char.ofNat, dif_pos valid]
    rfl
  · exact .inl h

theorem lowered_letter {c d e : Char} (h : lowered c = d) (upper : e.toNat + 32 = d.toNat) :
    c = d ∨ c = e := by
  rcases lowered_cases h with same | ⟨-, -, shifted⟩
  · exact .inl same
  · exact .inr (Char.toNat_inj.mp (by omega))

theorem lowered_slash {c : Char} (h : lowered c = '/') : c = '/' := by
  rcases lowered_cases h with same | ⟨least, -, shifted⟩
  · exact same
  · have : 'A'.toNat = 65 := rfl
    have : '/'.toNat = 47 := rfl
    omega

theorem map_lowered_iff {word : List Char} :
    word.map lowered = "http".toList ↔ HttpWord word := by
  constructor
  · intro h
    obtain ⟨c₁, w₁, rfl, h₁, h⟩ := List.map_eq_cons_iff.mp h
    obtain ⟨c₂, w₂, rfl, h₂, h⟩ := List.map_eq_cons_iff.mp h
    obtain ⟨c₃, w₃, rfl, h₃, h⟩ := List.map_eq_cons_iff.mp h
    obtain ⟨c₄, w₄, rfl, h₄, h⟩ := List.map_eq_cons_iff.mp h
    obtain rfl := List.map_eq_nil_iff.mp h
    exact .letters (lowered_letter h₁ rfl) (lowered_letter h₂ rfl) (lowered_letter h₃ rfl)
      (lowered_letter h₄ rfl)
  · rintro ⟨rfl | rfl, rfl | rfl, rfl | rfl, rfl | rfl⟩ <;> rfl

theorem bare_word {word : List Char} (h : HttpWord word) : Text.Bare word := by
  obtain ⟨first, -, -, fourth⟩ := h
  refine ⟨fun c hc => ?_, fun c hc => ?_⟩
  · obtain rfl := Option.some.inj hc
    rcases first with rfl | rfl <;> decide
  · simp only [List.getLast?_cons_cons, List.getLast?_singleton, Option.mem_def,
      Option.some.injEq] at hc
    rcases fourth with rfl | rfl <;> subst hc <;> decide

/-- Trimmed, the word with a version begins with the word and its slash. -/
theorem trimChars_versioned {front word version : List Char}
    (hf : ∀ c ∈ front, Text.isBlank c = true) (hw : HttpWord word) :
    ∃ kept, Text.trimChars (front ++ (word ++ '/' :: version)) = word ++ '/' :: kept := by
  have slash : ('/' :: version).rdropWhile Text.isBlank ≠ [] := fun none =>
    absurd (List.rdropWhile_eq_nil_iff.mp none '/' List.mem_cons_self) (by decide)
  obtain ⟨c, kept, hkept⟩ := List.exists_cons_of_ne_nil slash
  have split := List.rdropWhile_append_rtakeWhile (p := Text.isBlank) (l := '/' :: version)
  rw [hkept, List.cons_append] at split
  obtain rfl : c = '/' := (List.cons.inj split).1
  refine ⟨kept, ?_⟩
  rw [← split, ← List.cons_append, ← List.append_assoc word]
  refine Text.trimChars_between hf ⟨fun a ha => ?_, fun a ha => ?_⟩
    fun a ha => List.mem_rtakeWhile_imp ha
  · refine (bare_word hw).first a ?_
    obtain ⟨-, -, -, -⟩ := hw
    exact ha
  · rw [← hkept, List.getLast?_append_of_ne_nil _ slash, List.getLast?_eq_some_getLast slash] at ha
    obtain rfl := Option.some.inj ha
    exact Bool.eq_false_iff.mpr (List.rdropWhile_last_not Text.isBlank _ slash)

theorem isCleartextHttp_iff {e : Event} : e.isCleartextHttp = true ↔ CleartextHttp e.protocol := by
  simp only [isCleartextHttp, Bool.or_eq_true, beq_iff_eq, List.isPrefixOf_iff_prefix]
  constructor
  · obtain ⟨front, back, parts, hf, hb⟩ := Text.trimChars_parts e.protocol.toList
    rintro (alone | ⟨rest, versioned⟩)
    · exact ⟨front, _, back, parts, hf, map_lowered_iff.mp alone, .inl hb⟩
    · have word : "http/".toList = "http".toList ++ ['/'] := rfl
      rw [word, List.append_assoc] at versioned
      obtain ⟨w, slashed, eq, hw, hs⟩ := List.map_eq_append_iff.mp versioned.symm
      obtain ⟨c, version, rfl, hc, -⟩ := List.map_eq_cons_iff.mp hs
      obtain rfl := lowered_slash hc
      refine ⟨front, w, '/' :: version ++ back, ?_, hf, map_lowered_iff.mp hw, .inr ⟨_, rfl⟩⟩
      rw [parts, eq, List.append_assoc]
  · rintro ⟨front, word, back, parts, hf, hw, blank | ⟨version, rfl⟩⟩
    · left
      rw [parts, Text.trimChars_between hf (bare_word hw) blank]
      exact map_lowered_iff.mpr hw
    · right
      obtain ⟨kept, trimmed⟩ := trimChars_versioned hf hw
      rw [parts, trimmed, List.map_append, map_lowered_iff.mpr hw]
      exact ⟨kept.map lowered, rfl⟩

end Event

/-! ### What is stored of an event -/

/-- What is stored of an event that is recorded while this position is at hand: the event with its
own position or else with this one, as far as a store keeps them, and with what was seen of a
request only if that was not encrypted. -/
structure CapturedAs (e : Event) (fix? : Option GeoPoint) (stored : Event) : Prop where
  location : stored.location = (e.location.or fix?).bind GeoPoint.kept?
  cleartext : CleartextHttp e.protocol → stored.http = e.http
  encrypted : ¬ CleartextHttp e.protocol → stored.http = none
  others : stored = { e with location := stored.location, http := stored.http }

theorem capturedAs_prepared (e : Event) (fix? : Option GeoPoint) :
    CapturedAs e fix? (e.prepared fix?).kept := by
  have located : (if e.location.isNone then { e with location := fix? } else e) =
      { e with location := e.location.or fix? } := by
    cases own : e.location with
    | none => rfl
    | some p =>
      simp only [Option.isNone_some, Bool.false_eq_true, if_false, Option.some_or]
      rw [← own]
  have same : Event.isCleartextHttp { e with location := e.location.or fix? } =
      e.isCleartextHttp := rfl
  simp only [Event.prepared, located, same]
  by_cases plain : e.isCleartextHttp = true
  · rw [if_pos plain]
    exact ⟨rfl, fun _ => rfl, fun other => absurd (Event.isCleartextHttp_iff.mp plain) other, rfl⟩
  · rw [if_neg plain]
    exact ⟨rfl, fun word => absurd (Event.isCleartextHttp_iff.mpr word) plain, fun _ => rfl, rfl⟩

/-- A finite position is kept, and as a finite one. -/
theorem GeoPoint.kept?_of_finite {p : GeoPoint} (h : p.isFinite = true) :
    ∃ q, p.kept? = some q ∧ q.isFinite = true := by
  have double {x : Binary64} (hx : x.isFinite = true) :
      ∃ y, x.kept? = some y ∧ y.isFinite = true := by
    refine ⟨_, if_neg (by simp [Binary64.isNaN_eq_false hx]), ?_⟩
    split
    · decide
    · exact hx
  rw [GeoPoint.isFinite, Bool.and_eq_true] at h
  obtain ⟨latitude, hlatitude, finite⟩ := double h.1
  obtain ⟨longitude, hlongitude, finite'⟩ := double h.2
  refine ⟨⟨latitude, longitude⟩, ?_, ?_⟩
  · simp only [GeoPoint.kept?, hlatitude, hlongitude]
  · rw [GeoPoint.isFinite, finite, finite', Bool.and_self]

/-- A position that an event has got on recording is finite. -/
theorem CapturedAs.stamped {e stored : Event} {fix? : Option GeoPoint}
    (h : CapturedAs e fix? stored) (own : e.location = none)
    (finite : ∀ p, fix? = some p → p.isFinite = true) :
    (stored.location.isSome ↔ fix?.isSome) ∧ ∀ p, stored.location = some p → p.isFinite = true := by
  have location := h.location
  rw [own, Option.none_or] at location
  cases fix? with
  | none =>
    rw [location]
    exact ⟨Iff.rfl, nofun⟩
  | some p =>
    obtain ⟨q, kept, finite⟩ := GeoPoint.kept?_of_finite (finite p rfl)
    rw [Option.bind_some, kept] at location
    rw [location]
    refine ⟨iff_of_true rfl rfl, ?_⟩
    rintro _ ⟨⟩
    exact finite

namespace Store

variable {s s' : Store} {e : Event} {id : RecordId}

/-- An event that a sound store takes comes after the other records, under a number above theirs. -/
theorem Sound.append_shows (h : s.Sound) (ha : s.append e = (.ok id, s')) :
    ∃ records, s.Shows records ∧ s'.Shows (records ++ [⟨id, .pending, e.kept⟩]) ∧
      (∀ r ∈ records, r.id < id) ∧ s'.saved = s.saved := by
  have after : s'.Sound := by
    have := h.append e
    rwa [ha] at this
  obtain ⟨t, ht, l, hold, -⟩ := h.live.table
  rcases s.append_result e with ⟨fault, hf⟩ | ⟨-, hf⟩ | ⟨id', t', u, ht', hi, hs⟩
  · rw [hf] at ha
    cases ha
  · rw [hf] at ha
    cases ha
  · rw [hs] at ha
    cases ha
    rw [ht] at ht'
    cases ht'
    rcases Table.insert_cases hold e with ⟨fault, hf⟩ | ⟨id', hid, u', hu, hold'⟩
    · rw [hf] at hi
      cases hi
    · rw [hu] at hi
      cases hi
      obtain ⟨shows, -⟩ := h.shows_of_table ht hold
      obtain ⟨shows', -⟩ := after.shows_of_table rfl hold'
      have records : (l.append id e hid).records.map Record.kept =
          l.records.map Record.kept ++ [⟨id, .pending, e.kept⟩] := by
        rw [Log.append, List.map_append]
        rfl
      rw [records] at shows'
      refine ⟨_, shows, shows', fun r hr => ?_, rfl⟩
      obtain ⟨q, hq, rfl⟩ := List.mem_map.mp hr
      exact Int.lt_of_le_of_lt (l.bounded q hq) hid

theorem Shows.unique {records records' : List Record} (h : s.Shows records)
    (h' : s.Shows records') : records = records' := by
  have total := h.countTotal.symm.trans h'.countTotal
  have length : records.length = records'.length := by simpa using total
  have all := (h.recent records.length).symm.trans (h'.recent records.length)
  rw [Except.ok.injEq, List.take_of_length_le (by simp), List.take_of_length_le (by simp [length]),
    List.reverse_inj] at all
  exact all

/-- A record is found under its number behind those with lower ones. -/
theorem Shows.get?_behind {records more : List Record} {new : Record}
    (h : s.Shows (records ++ new :: more)) (above : ∀ r ∈ records, r.id < new.id) :
    s.get? new.id = .ok (some new) := by
  have none : (records.find? fun r => r.id = new.id) = none := by
    refine List.find?_eq_none.mpr fun r hr => ?_
    simpa using Int.ne_of_lt (above r hr)
  rw [h.get, List.find?_append, none]
  simp

theorem Shows.get?_above {records : List Record} (h : s.Shows records)
    (above : ∀ r ∈ records, r.id < id) : s.get? id = .ok none := by
  rw [h.get, List.find?_eq_none.mpr]
  intro r hr
  simpa using Int.ne_of_lt (above r hr)

/-- Under the other numbers nothing has changed. -/
theorem Shows.get?_beside {records : List Record} {new : Record} (h : s.Shows records)
    (h' : s'.Shows (records ++ [new])) (other : id ≠ new.id) : s'.get? id = s.get? id := by
  have single : ([new].find? fun r => r.id = id) = none := by simp [Ne.symm other]
  rw [h'.get, h.get, List.find?_append, single, Option.or_none]

end Store

/-! ### What the background does to a store -/

section Background

variable {γ : Type} [CredentialGate γ]

theorem Attempt.finish_store_cases (a : Attempt) (outcome : Outcome) (gate : γ) (store : Store) :
    (a.finish outcome gate store).2.2 = store ∨
      (a.finish outcome gate store).2.2 = (store.markDelivered a.batch.ids).2 := by
  cases outcome with
  | delivered =>
    refine .inr ?_
    rcases hm : store.markDelivered a.batch.ids with ⟨fault | n, store'⟩ <;> simp only [finish, hm]
  | _ => exact .inl rfl

theorem Background.finish_store_cases (b : Background γ) (i : Nat) (outcome : Outcome) :
    (b.finish i outcome).site.store = b.site.store ∨
      ∃ ids, (b.finish i outcome).site.store = (b.site.store.markDelivered ids).2 := by
  unfold Background.finish
  split
  · exact .inl rfl
  · next attempt _ =>
    rcases attempt.finish_store_cases outcome b.site.gate b.site.store with same | delivered
    · exact .inl same
    · exact .inr ⟨_, delivered⟩
  · exact .inl rfl

/-- The background leaves the store or delivers records, unless others put another store in its
place. -/
theorem Service.step_store_cases (s : Service γ) (move : Service.Move γ) :
    (s.step move).background.site.store = s.background.site.store ∨
      (∃ ids, (s.step move).background.site.store =
        (s.background.site.store.markDelivered ids).2) ∨ ∃ site, move = .work site := by
  cases move with
  | wake k =>
    refine .inl ?_
    simp only [step]
    split
    · rfl
    · split <;> rfl
  | begin i => exact .inl (s.background.begin_store i)
  | finish i outcome =>
    rcases s.background.finish_store_cases i outcome with same | delivered
    · exact .inl same
    · exact .inr (.inl delivered)
  | breakDown i => exact .inl (congrArg Site.store (s.background.breakDown_site i))
  | work site => exact .inr (.inr ⟨site, rfl⟩)
  | _ => exact .inl rfl

end Background

/-! ### Histories -/

namespace Recording

variable {γ : Type} {r : Recording γ} {move : Move γ} {moves : List (Move γ)} {e : Event}
  {p : GeoPoint} {id : RecordId} {records : List Record}

/-- The position was told among these moves, it is finite, and since then neither was another finite
one told nor was it forgotten. -/
def LastFix (moves : List (Move γ)) (p : GeoPoint) : Prop :=
  ∃ before after, moves = before ++ .locate p :: after ∧ p.isFinite = true ∧
    ∀ move ∈ after, move ≠ .forget ∧ ∀ q, move = .locate q → q.isFinite = false

theorem lastFix_concat : LastFix (moves ++ [move]) p ↔
    (move = .locate p ∧ p.isFinite = true) ∨
      LastFix moves p ∧ move ≠ .forget ∧ ∀ q, move = .locate q → q.isFinite = false := by
  constructor
  · rintro ⟨before, after, hm, finite, since⟩
    -- the position is told by the last move, or before it
    rcases List.eq_nil_or_concat after with rfl | ⟨after, last, rfl⟩
    · obtain ⟨-, hl⟩ := List.append_inj' hm rfl
      exact .inl ⟨List.singleton_inj.mp hl, finite⟩
    · rw [List.concat_eq_append] at hm since
      rw [← List.cons_append, ← List.append_assoc] at hm
      obtain ⟨rfl, hl⟩ := List.append_inj' hm rfl
      obtain rfl := List.singleton_inj.mp hl
      exact .inr ⟨⟨before, after, rfl, finite, fun m hm => since m (List.mem_append_left _ hm)⟩,
        since move (by simp)⟩
  · rintro (⟨rfl, finite⟩ | ⟨⟨before, after, rfl, finite, since⟩, other⟩)
    · exact ⟨moves, [], rfl, finite, fun _ hm => absurd hm List.not_mem_nil⟩
    · refine ⟨before, after ++ [move], by simp, finite, fun m hm => ?_⟩
      rcases List.mem_append.mp hm with hm | hm
      · exact since m hm
      · rwa [List.mem_singleton.mp hm]

variable [CredentialGate γ]

theorem location_step : (r.step move).location.point = some p ↔
    (move = .locate p ∧ p.isFinite = true) ∨
      r.location.point = some p ∧ move ≠ .forget ∧ ∀ q, move = .locate q → q.isFinite = false := by
  cases move with
  | record e =>
    rw [(r.record_eq e).2.2]
    simp
  | locate q =>
    simp only [step, LastLocation.update]
    by_cases finite : q.isFinite = true
    · rw [if_pos finite]
      constructor
      · rintro ⟨⟩
        exact .inl ⟨rfl, finite⟩
      · rintro (⟨⟨⟩, -⟩ | ⟨-, -, infinite⟩)
        · rfl
        · rw [infinite q rfl] at finite
          cases finite
    · rw [if_neg finite]
      constructor
      · intro before
        refine .inr ⟨before, ?_, ?_⟩
        · rintro ⟨⟩
        · rintro _ ⟨⟩
          exact Bool.eq_false_iff.mpr finite
      · rintro (⟨⟨⟩, finite'⟩ | ⟨before, -⟩)
        · exact absurd finite' finite
        · exact before
  | forget => simp [step, LastLocation.clear]
  | erase => simp [step, withStore]
  | background move => simp [step]

/-- The position at hand is the last one that was told. -/
theorem location_run (fresh : r.location = {}) (moves : List (Move γ)) (p : GeoPoint) :
    (r.run moves).location.point = some p ↔ LastFix moves p := by
  induction moves using List.reverseRecOn generalizing p with
  | nil => simp [run, fresh, LastFix]
  | append_singleton moves move ih =>
    have last : r.run (moves ++ [move]) = (r.run moves).step move := by simp [run]
    rw [last, location_step, lastFix_concat, ih]

/-- The position at hand when the next event is recorded. -/
def fix? (r : Recording γ) : Option GeoPoint := if r.ingestor.located then r.location.point else none

/-- What others leave in the place of the store is a sound one. -/
def Move.Sound : Move γ → Prop
  | .background (.work site) => site.store.Sound
  | _ => True

theorem sound_step (sound : r.store.Sound) (hm : move.Sound) : (r.step move).store.Sound := by
  cases move with
  | record e =>
    rw [(r.record_eq e).2.1]
    exact sound.append _
  | locate p => exact sound
  | forget => exact sound
  | erase => exact sound.call .eraseAll
  | background move =>
    rcases r.service.step_store_cases move with same | ⟨ids, delivered⟩ | ⟨site, rfl⟩
    · have store : (r.step (.background move)).store = r.store := same
      rwa [store]
    · have store : (r.step (.background move)).store = (r.store.markDelivered ids).2 := delivered
      rw [store]
      exact sound.markDelivered ids
    · exact hm

theorem sound_run (sound : r.store.Sound) (hm : ∀ move ∈ moves, move.Sound) :
    (r.run moves).store.Sound := by
  induction moves generalizing r with
  | nil => exact sound
  | cons move moves ih =>
    obtain ⟨first, rest⟩ := List.forall_mem_cons.mp hm
    exact ih (sound_step sound first) rest

/-- An event that is refused leaves the position and the scheduler, and the store unless it undoes
an open transaction. -/
theorem record_refused {fault : StoreFault}
    (h : r.result? (.record e) = some (.error fault)) :
    (r.step (.record e)).location = r.location ∧ (r.step (.record e)).scheduler = r.scheduler ∧
      ((r.step (.record e)).store = r.store ∨ r.store.saved ≠ none ∧ fault = .database .full ∧
        (r.step (.record e)).store = r.store.undone) := by
  rcases hr : r.ingestor.record e r.target with ⟨result, t⟩
  have told : result = .error fault := by simpa [result?, hr] using h
  subst told
  obtain ⟨stored, location⟩ := Ingestor.record_error hr
  have scheduler := Ingestor.record_refused hr
  simp only [step, hr, store_withTarget, scheduler_withTarget]
  refine ⟨location, scheduler, ?_⟩
  rcases stored with same | ⟨opened, undone, full⟩
  · exact .inl same
  · exact .inr ⟨opened, full, undone⟩

/-- An event that is recorded in a sound store is the last of its records, pending, under the number
that is told. -/
theorem record_accepted (sound : r.store.Sound) (shows : r.store.Shows records)
    (h : r.result? (.record e) = some (.ok id)) :
    ∃ stored, CapturedAs e r.fix? stored ∧
      (r.step (.record e)).store.Shows (records ++ [⟨id, .pending, stored⟩]) ∧
      (∀ q ∈ records, q.id < id) ∧ (r.step (.record e)).store.saved = r.store.saved := by
  obtain ⟨told, store, -⟩ := r.record_eq e
  rw [h] at told
  have ha : r.store.append (e.prepared r.fix?) = (.ok id, (r.step (.record e)).store) := by
    rw [store]
    exact Prod.ext (Option.some.inj told).symm rfl
  obtain ⟨records', shows', after, above, saved⟩ := sound.append_shows ha
  obtain rfl := shows.unique shows'
  exact ⟨_, capturedAs_prepared e r.fix?, after, above, saved⟩

/-- In a quiet history with no open transaction, records only come behind those that there are. -/
theorem shows_step (sound : r.store.Sound) (settled : r.store.saved = none)
    (calm : r.result? move = none → (r.step move).store = r.store)
    (shows : r.store.Shows records) :
    (r.step move).store.Sound ∧ (r.step move).store.saved = none ∧
      ∃ more, (r.step move).store.Shows (records ++ more) := by
  cases told : r.result? move with
  | none =>
    rw [calm told]
    exact ⟨sound, settled, [], by rwa [List.append_nil]⟩
  | some result =>
    cases move with
    | record e =>
      refine ⟨sound_step sound trivial, ?_⟩
      cases result with
      | error fault =>
        obtain ⟨-, -, same | ⟨opened, -⟩⟩ := record_refused told
        · rw [same]
          exact ⟨settled, [], by rwa [List.append_nil]⟩
        · exact absurd settled opened
      | ok id =>
        obtain ⟨stored, -, after, -, saved⟩ := record_accepted sound shows told
        exact ⟨saved.trans settled, _, after⟩
    | _ => cases told

theorem shows_run (sound : r.store.Sound) (settled : r.store.saved = none) (quiet : r.Quiet moves)
    (shows : r.store.Shows records) :
    (r.run moves).store.Sound ∧ (r.run moves).store.saved = none ∧
      ∃ more, (r.run moves).store.Shows (records ++ more) := by
  induction moves generalizing r records with
  | nil => exact ⟨sound, settled, [], by rwa [List.append_nil]⟩
  | cons move moves ih =>
    obtain ⟨calm, quiet⟩ := quiet
    obtain ⟨sound', settled', more, shows'⟩ := shows_step sound settled calm shows
    obtain ⟨sound'', settled'', others, shows''⟩ := ih sound' settled' quiet shows'
    rw [List.append_assoc] at shows''
    exact ⟨sound'', settled'', _, shows''⟩

theorem run_append (r : Recording γ) (moves moves' : List (Move γ)) :
    r.run (moves ++ moves') = (r.run moves).run moves' := List.foldl_append ..

theorem Quiet.append {moves' : List (Move γ)} :
    r.Quiet (moves ++ moves') ↔ r.Quiet moves ∧ (r.run moves).Quiet moves' := by
  induction moves generalizing r with
  | nil => simp [Quiet, run]
  | cons move moves ih =>
    rw [List.cons_append, Quiet, Quiet, ih, and_assoc]
    rfl

/-- The position at hand is finite. -/
theorem finite_fix (fresh : r.location = {}) (h : (r.run moves).fix? = some p) :
    p.isFinite = true := by
  unfold fix? at h
  split at h
  · obtain ⟨-, -, -, finite, -⟩ := (location_run fresh moves p).mp h
    exact finite
  · cases h

/-- What is at hand is the last finite position that was told since it was forgotten. In any state
with a sound store, an event is refused, and then position and scheduler stay, and so does the store
unless an open transaction is undone in which no number was left; or it is stored as what it is
captured as, pending, under the number that is told, which was that of no other record, and the
other records stay. What was stored in a quiet history is there in the end, unless a transaction of
others was open. -/
theorem capture_exact (fresh : r.location = {}) (sound : r.store.Sound) :
    (∀ moves p, (r.run moves).location.point = some p ↔ LastFix moves p) ∧
    (∀ moves e, (∀ move ∈ moves, move.Sound) →
      (∃ fault, (r.run moves).result? (.record e) = some (.error fault) ∧
        (r.run (moves ++ [.record e])).location = (r.run moves).location ∧
        (r.run (moves ++ [.record e])).scheduler = (r.run moves).scheduler ∧
        ((r.run (moves ++ [.record e])).store = (r.run moves).store ∨
          (r.run moves).store.saved ≠ none ∧ fault = .database .full ∧
            (r.run (moves ++ [.record e])).store = (r.run moves).store.undone)) ∨
      ∃ id stored, (r.run moves).result? (.record e) = some (.ok id) ∧
        CapturedAs e (r.run moves).fix? stored ∧
        (e.location = none → ∀ p, stored.location = some p → p.isFinite = true) ∧
        (r.run moves).store.get? id = .ok none ∧
        (r.run (moves ++ [.record e])).store.get? id = .ok (some ⟨id, .pending, stored⟩) ∧
        ∀ other ≠ id, (r.run (moves ++ [.record e])).store.get? other =
          (r.run moves).store.get? other) ∧
    (∀ before e after id, r.Quiet (before ++ .record e :: after) → r.store.saved = none →
      (r.run before).result? (.record e) = some (.ok id) →
      ∃ stored, CapturedAs e (r.run before).fix? stored ∧
        (r.run (before ++ .record e :: after)).store.get? id =
          .ok (some ⟨id, .pending, stored⟩)) := by
  refine ⟨location_run fresh, fun moves e lawful => ?_,
    fun before e after id quiet settled told => ?_⟩
  · have sound' := sound_run sound lawful
    have next : r.run (moves ++ [.record e]) = (r.run moves).step (.record e) := by
      rw [run_append]
      rfl
    have fixed : ∀ p, (r.run moves).fix? = some p → p.isFinite = true := fun _ => finite_fix fresh
    rw [next]
    obtain ⟨told, -⟩ := (r.run moves).record_eq e
    cases result : ((r.run moves).store.append (e.prepared (r.run moves).fix?)).1 with
    | error fault =>
      have refused := told.trans (congrArg some result)
      exact .inl ⟨fault, refused, record_refused refused⟩
    | ok id =>
      have accepted := told.trans (congrArg some result)
      obtain ⟨l, -, shows, -⟩ := sound'.shows
      obtain ⟨stored, captured, shows', above, -⟩ := record_accepted sound' shows accepted
      exact .inr ⟨id, stored, accepted, captured, fun own => (captured.stamped own fixed).2,
        shows.get?_above above, shows'.get?_behind above, fun _ => shows.get?_beside shows'⟩
  · obtain ⟨calm, quiet⟩ := Quiet.append.mp quiet
    obtain ⟨l, -, shows, -⟩ := sound.shows
    obtain ⟨sound', settled', more, shows'⟩ := shows_run sound settled calm shows
    obtain ⟨stored, captured, shows'', above, saved⟩ := record_accepted sound' shows' told
    have sound'' : ((r.run before).step (.record e)).store.Sound := sound_step sound' trivial
    obtain ⟨-, -, others, final⟩ := shows_run sound'' (saved.trans settled') quiet.2 shows''
    refine ⟨stored, captured, ?_⟩
    rw [List.append_assoc] at final
    rw [run_append]
    exact final.get?_behind above

/-- Events are recorded with the last known position. -/
def positioned : Recording MemoryGate where
  ingestor := { located := true }
  service := .start default { gate := ⟨none⟩, store := Store.inMemory.migrate.2 }

/-- A request that was not encrypted, and one that says to be so although it was. -/
def requests : Event × Event :=
  let plain : Event :=
    { appUid := 1, protocol := "\u3000HtTp/2 ", startTime := 0, endTime := 0
      http := some ⟨"GET", "/", none⟩ }
  (plain, { plain with protocol := "https" })

/-- A position, and one that is no number. -/
def positions : GeoPoint × GeoPoint :=
  (⟨⟨0x4049000000000000⟩, .zero true⟩, ⟨.nan, .zero false⟩)

/-- The first request comes after both positions and gets the first one, without the sign of its
zero. The second one comes after that was forgotten, and what was seen of it is left out. -/
theorem capture_exact_positioned :
    let moves : List (Move MemoryGate) := [.locate positions.1, .locate positions.2,
      .record requests.1, .forget, .record requests.2]
    positioned.location = {} ∧ positioned.store.Sound ∧
      (positioned.run moves).store.get? 1 = .ok (some ⟨1, .pending,
        { requests.1 with location := some ⟨⟨0x4049000000000000⟩, .zero false⟩ }⟩) ∧
      (positioned.run moves).store.get? 2 = .ok (some ⟨2, .pending,
        { requests.2 with http := none }⟩) := by
  intro moves
  have sound : positioned.store.Sound :=
    (@Store.Arises.migrated Store.inMemory _ (by decide) (by decide) rfl).sound
  have quiet : positioned.Quiet moves :=
    ⟨fun _ => rfl, fun _ => rfl, by simp [result?], fun _ => rfl, by simp [result?], trivial⟩
  obtain ⟨-, -, stored⟩ := capture_exact rfl sound
  obtain ⟨first, captured, found⟩ := stored [.locate positions.1, .locate positions.2] requests.1
    [.forget, .record requests.2] 1 quiet rfl rfl
  obtain ⟨second, captured', found'⟩ := stored [.locate positions.1, .locate positions.2,
    .record requests.1, .forget] requests.2 [] 2 quiet rfl rfl
  have plain : CleartextHttp requests.1.protocol := Event.isCleartextHttp_iff.mp (by decide)
  have secret : ¬ CleartextHttp requests.2.protocol := mt Event.isCleartextHttp_iff.mpr (by decide)
  refine ⟨rfl, sound, found.trans ?_, found'.trans ?_⟩
  · rw [captured.others, captured.location, captured.cleartext plain]
    rfl
  · rw [captured'.others, captured'.location, captured'.encrypted secret]
    rfl

/-- In a transaction in which one number is left, the second event is refused, and the first one is
gone with the transaction. -/
theorem capture_undone :
    let r := (watched 2 Ingestor.oneLeft).run [.record default]
    r.result? (.record default) = some (.error (.database .full)) ∧
      r.store.countTotal = .ok 1 ∧ (r.step (.record default)).store.countTotal = .ok 0 ∧
      (r.step (.record default)).store ≠ r.store := by
  intro r
  have before : r.store.countTotal = .ok 1 := rfl
  have after : (r.step (.record default)).store.countTotal = .ok 0 := rfl
  refine ⟨rfl, before, after, fun same => ?_⟩
  rw [same, before] at after
  cases after

end Recording

end Outbox
