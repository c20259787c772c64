import Outbox.Proofs.Json.Doubles
import Outbox.Upload.Anonymizer

/-!
# A location is sent whole

A finite location is told with both coordinates, and without one neither is told. The rounding
multiplies by a hundred in doubles first, and what is too large for that (`Scales`) comes out as an
infinity and is written as `null`, also beside a coordinate that is a number (`location_exact`).
-/

namespace Outbox

open Json

variable {x : Binary64}

/-! ### One coordinate -/

/-- A hundred times the double, rounded to a double, is finite. -/
def Binary64.Scales (x : Binary64) : Prop := 100 * x.magnitude.1 < overflow * x.magnitude.2

instance : DecidablePred Binary64.Scales := fun x =>
  inferInstanceAs (Decidable (100 * x.magnitude.1 < _ * x.magnitude.2))

/-- A coordinate that can be scaled stays finite. -/
theorem isFinite_roundedCoordinate (h : x.isFinite = true) (scales : x.Scales) :
    x.roundedCoordinate.isFinite = true :=
  Binary64.isFinite_div_hundred
    (Binary64.isFinite_roundHalfAway ((Binary64.isFinite_mul_hundred h).mpr scales))

/-- An infinity is not rounded, and a hundredth of it is one again. -/
theorem isInfinite_roundedCoordinate (h : x.isFinite = true) (leaves : ¬ x.Scales) :
    x.roundedCoordinate.isInfinite = true := by
  have infinite : (x.mul .hundred).isFinite = false := by
    rwa [Bool.eq_false_iff, Ne, Binary64.isFinite_mul_hundred h]
  obtain ⟨negative, product⟩ := Binary64.mul_hundred_infinite h infinite
  rw [Binary64.roundedCoordinate, product]
  cases negative <;> decide

/-- The text is a number. -/
def IsNumber (t : List Char) : Prop := ∃ l, LiteralText l t

/-- What becomes of a coordinate: the double that is told and its text. -/
inductive SentAs : Option Binary64 → Option Binary64 → List Char → Prop
  | absent : SentAs none none nullText
  | number {x : Binary64} {t : List Char} (scales : x.Scales)
      (finite : x.roundedCoordinate.isFinite = true) (number : IsNumber t) :
      SentAs (some x) (some x.roundedCoordinate) t
  | infinite {x : Binary64} (leaves : ¬ x.Scales)
      (infinite : x.roundedCoordinate.isInfinite = true) :
      SentAs (some x) (some x.roundedCoordinate) nullText

theorem sentAs_rounded {x? : Option Binary64} (h : ∀ x ∈ x?, x.isFinite = true) :
    SentAs x? (x?.map (·.roundedCoordinate))
      (printOption printDouble (x?.map (·.roundedCoordinate))) := by
  cases x? with
  | none => exact .absent
  | some x =>
    have finite := h x rfl
    by_cases scales : x.Scales
    · have kept := isFinite_roundedCoordinate finite scales
      refine .number scales kept ?_
      rw [Option.map_some, printOption, printDouble, if_pos kept]
      exact literalText_double _
    · have infinite := isInfinite_roundedCoordinate finite scales
      have text : printDouble x.roundedCoordinate = nullText := by
        refine if_neg fun kept => ?_
        rw [Binary64.isInfinite_eq_false kept] at infinite
        cases infinite
      rw [Option.map_some, printOption, text]
      exact .infinite scales infinite

theorem not_isNumber_null : ¬ IsNumber nullText := by
  rintro ⟨l, literal⟩
  obtain ⟨c, s, eq, begins⟩ := literal.eq_cons
  obtain rfl : c = 'n' := (List.cons.inj eq).1.symm
  exact absurd begins (by decide)

/-- The coordinate is a finite number. -/
def IsCoordinate (x? : Option Binary64) : Prop := ∃ x, x? = some x ∧ x.isFinite = true

theorem SentAs.absent_iff {x? : Option Binary64} {t : List Char} (h : SentAs none x? t) :
    (x? = none ∧ ¬ IsCoordinate x?) ∧ t = nullText ∧ ¬ IsNumber t := by
  cases h with
  | absent => exact ⟨⟨rfl, nofun⟩, rfl, not_isNumber_null⟩

theorem SentAs.given_iff {x? : Option Binary64} {t : List Char} (h : SentAs (some x) x? t) :
    (IsCoordinate x? ↔ x.Scales) ∧ (IsNumber t ↔ x.Scales) := by
  cases h with
  | number scales finite number =>
    exact ⟨iff_of_true ⟨_, rfl, finite⟩ scales, iff_of_true number scales⟩
  | infinite leaves infinite =>
    refine ⟨iff_of_false ?_ leaves, iff_of_false not_isNumber_null leaves⟩
    rintro ⟨_, ⟨⟩, finite⟩
    rw [Binary64.isInfinite_eq_false finite] at infinite
    cases infinite

/-! ### Both coordinates -/

/-- Two coordinates are both left out or both given, and given exactly where there is a location. -/
structure SentWhole {α : Type} (absent given : α → Prop) (located : Prop) (latitude longitude : α) :
    Prop where
  together : absent latitude ∧ absent longitude ∨ given latitude ∧ given longitude
  exact : given latitude ∧ given longitude ↔ located

/-- The event has a location with two finite coordinates. -/
def Event.IsLocated (e : Event) : Prop := ∃ p, e.location = some p ∧ p.isFinite = true

/-- The coordinates of a finite location can be scaled. -/
def Event.Scales (e : Event) : Prop :=
  ∀ p, e.location = some p → p.isFinite = true → p.latitude.Scales ∧ p.longitude.Scales

/-- The location of an event, if it is finite. -/
def Event.fix? (e : Event) : Option GeoPoint := e.location.filter GeoPoint.isFinite

theorem Event.fix?_eq_some {e : Event} {p : GeoPoint} :
    e.fix? = some p ↔ e.location = some p ∧ p.isFinite = true := by
  simp [fix?, Option.filter_eq_some_iff]

theorem Event.isLocated_iff {e : Event} : e.IsLocated ↔ ∃ p, e.fix? = some p := by
  simp only [IsLocated, fix?_eq_some]

theorem Event.scales_iff {e : Event} :
    e.Scales ↔ ∀ p, e.fix? = some p → p.latitude.Scales ∧ p.longitude.Scales := by
  simp only [Scales, fix?_eq_some, and_imp]

/-- Coordinates that are given exactly where they can be scaled are sent whole if they can be. -/
theorem sentWhole_iff {α : Type} {absent given : α → Prop} {e : Event} {u v : α}
    (none : e.fix? = none → (absent u ∧ ¬ given u) ∧ absent v ∧ ¬ given v)
    (some : ∀ p, e.fix? = some p → (given u ↔ p.latitude.Scales) ∧ (given v ↔ p.longitude.Scales)) :
    SentWhole absent given e.IsLocated u v ↔ e.Scales := by
  rw [Event.isLocated_iff, Event.scales_iff]
  cases fix : e.fix? with
  | none =>
    obtain ⟨⟨absent, not⟩, absent', -⟩ := none fix
    refine iff_of_true ⟨.inl ⟨absent, absent'⟩, iff_of_false (fun given => not given.1) nofun⟩ nofun
  | some p =>
    obtain ⟨latitude, longitude⟩ := some p fix
    constructor
    · rintro ⟨-, exact⟩ _ ⟨⟩
      have given := exact.mpr ⟨p, rfl⟩
      exact ⟨latitude.mp given.1, longitude.mp given.2⟩
    · intro scales
      have given := scales p rfl
      rw [← latitude, ← longitude] at given
      exact ⟨.inr given, iff_of_true given ⟨p, rfl⟩⟩

theorem transform_coordinates (a : Anonymizer) (r : Record) :
    (a.transform r).latitude =
        (r.event.fix?.map (·.latitude)).map (·.roundedCoordinate) ∧
      (a.transform r).longitude =
        (r.event.fix?.map (·.longitude)).map (·.roundedCoordinate) := by
  simp only [Anonymizer.transform, Event.fix?]
  cases r.event.location with
  | none => exact ⟨rfl, rfl⟩
  | some p => cases finite : p.isFinite <;> simp [GeoPoint.rounded?, finite]

theorem sentAs_coordinates (a : Anonymizer) (r : Record) :
    SentAs (r.event.fix?.map (·.latitude)) (a.transform r).latitude
        (printOption printDouble (a.transform r).latitude) ∧
      SentAs (r.event.fix?.map (·.longitude)) (a.transform r).longitude
        (printOption printDouble (a.transform r).longitude) := by
  obtain ⟨latitude, longitude⟩ := transform_coordinates a r
  have finite : ∀ p, r.event.fix? = some p →
      p.latitude.isFinite = true ∧ p.longitude.isFinite = true := by
    intro p hp
    have := (Event.fix?_eq_some.mp hp).2
    rwa [GeoPoint.isFinite, Bool.and_eq_true] at this
  rw [latitude, longitude]
  constructor <;> refine sentAs_rounded fun x hx => ?_ <;>
    obtain ⟨p, hp, rfl⟩ := Option.map_eq_some_iff.mp hx
  · exact (finite p hp).1
  · exact (finite p hp).2

/-- The text of an event ends with those of its coordinates. -/
theorem print_coordinates (e : AnonymizedEvent) :
    e.print = printObject (e.members.take 14 ++ [("latitude", printOption printDouble e.latitude),
      ("longitude", printOption printDouble e.longitude)]) := rfl

/-- Without a finite location both coordinates are left out. With one, each is told as a finite
double and as a number in the text if it can be scaled, and as an infinity and `null` if it cannot.
So the location is sent whole, in the event and in its text, exactly if both can be scaled. -/
theorem location_exact (a : Anonymizer) (r : Record) :
    ∃ latitude longitude : List Char,
      (a.transform r).print = printObject ((a.transform r).members.take 14 ++
        [("latitude", latitude), ("longitude", longitude)]) ∧
      SentAs (r.event.fix?.map (·.latitude)) (a.transform r).latitude latitude ∧
      SentAs (r.event.fix?.map (·.longitude)) (a.transform r).longitude longitude ∧
      (SentWhole (· = none) IsCoordinate r.event.IsLocated (a.transform r).latitude
        (a.transform r).longitude ↔ r.event.Scales) ∧
      (SentWhole (· = nullText) IsNumber r.event.IsLocated latitude longitude ↔
        r.event.Scales) := by
  obtain ⟨latitude, longitude⟩ := sentAs_coordinates a r
  refine ⟨_, _, print_coordinates _, latitude, longitude, sentWhole_iff ?_ ?_, sentWhole_iff ?_ ?_⟩
  · intro fix
    rw [fix] at latitude longitude
    exact ⟨latitude.absent_iff.1, longitude.absent_iff.1⟩
  · intro p fix
    rw [fix] at latitude longitude
    exact ⟨latitude.given_iff.1, longitude.given_iff.1⟩
  · intro fix
    rw [fix] at latitude longitude
    exact ⟨latitude.absent_iff.2, longitude.absent_iff.2⟩
  · intro p fix
    rw [fix] at latitude longitude
    exact ⟨latitude.given_iff.2, longitude.given_iff.2⟩

/-- An event at a latitude that is finite and too large for the rounding. -/
def overlarge : Event :=
  { appUid := 10001, protocol := "TCP", startTime := 1000, endTime := 1500
    location := some ⟨⟨0x7fe1ccf385ebc8a0⟩, ⟨0x4022000000000000⟩⟩ }

/-- Of its location only the longitude is sent: the latitude is an infinity, and `null` in the text. -/
theorem location_torn :
    ¬ SentWhole (· = none) IsCoordinate overlarge.IsLocated
        (Anonymizer.standard.transform ⟨1, .pending, overlarge⟩).latitude
        (Anonymizer.standard.transform ⟨1, .pending, overlarge⟩).longitude ∧
      (Anonymizer.standard.transform ⟨1, .pending, overlarge⟩).print =
        printObject ((Anonymizer.standard.transform ⟨1, .pending, overlarge⟩).members.take 14 ++
          [("latitude", nullText), ("longitude", ['9', '.', '0'])]) ∧
      ¬ SentWhole (· = nullText) IsNumber overlarge.IsLocated nullText ['9', '.', '0'] := by
  have latitude : (Anonymizer.standard.transform ⟨1, .pending, overlarge⟩).latitude =
      some (.infinity false) := by decide +kernel
  have texts : printOption printDouble
        (Anonymizer.standard.transform ⟨1, .pending, overlarge⟩).latitude = nullText ∧
      printOption printDouble
        (Anonymizer.standard.transform ⟨1, .pending, overlarge⟩).longitude = ['9', '.', '0'] := by
    decide +kernel
  have located : overlarge.IsLocated := ⟨_, rfl, by decide⟩
  refine ⟨fun whole => ?_, ?_, fun whole => not_isNumber_null (whole.exact.mpr located).1⟩
  · obtain ⟨x, hx, finite⟩ := (whole.exact.mpr located).1
    rw [latitude] at hx
    obtain rfl := Option.some.inj hx
    exact absurd finite (by decide)
  · rw [print_coordinates, texts.1, texts.2]

end Outbox
