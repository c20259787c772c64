import Outbox.Event.Format
import Outbox.Proofs.Json.Refusal

/-!
# The meaning of an event's text

Every text that spells an event is read as this event, and an object that lacks what an event has
to have, has a member twice or has `null` where a value has to stand is no event.
-/

namespace Outbox

open Json

/-! ### The format -/

/-- The parts of a position. -/
def GeoPoint.parts : List (Json.Part GeoPoint) := [
  .required "latitude" DoubleText (·.latitude),
  .required "longitude" DoubleText (·.longitude)]

/-- The parts of a request. -/
def HttpRequest.parts : List (Json.Part HttpRequest) := [
  .required "method" StringText (·.method),
  .required "path" StringText (·.path),
  .optional "host" StringText (·.host) fun _ => False]

/-- The parts of an event. -/
def Event.parts : List (Json.Part Event) := [
  .defaulted "user_id" StringText (·.userId) "",
  .optional "app_name" StringText (·.appName) fun _ => False,
  .required "app_uid" (fun x : Int32 => IntText x.toInt) (·.appUid),
  .required "protocol" StringText (·.protocol),
  .optional "domain" StringText (·.domain) fun _ => False,
  .optional "src_ip" StringText (·.sourceIp) fun _ => False,
  .optional "src_port" (fun x : UInt16 => IntText x.toNat) (·.sourcePort) fun _ => False,
  .optional "dst_ip" StringText (·.targetIp) fun _ => False,
  .optional "dst_port" (fun x : UInt16 => IntText x.toNat) (·.targetPort) fun _ => False,
  .defaulted "bytes_tx" (fun x : Int64 => IntText x.toInt) (·.bytesSent) 0,
  .defaulted "bytes_rx" (fun x : Int64 => IntText x.toInt) (·.bytesReceived) 0,
  .defaulted "packets_tx" (fun x : Int64 => IntText x.toInt) (·.packetsSent) 0,
  .defaulted "packets_rx" (fun x : Int64 => IntText x.toInt) (·.packetsReceived) 0,
  .required "start_ts" (fun x : Int64 => IntText x.toInt) (·.startTime),
  .required "end_ts" (fun x : Int64 => IntText x.toInt) (·.endTime),
  .optional "location" (RecordText GeoPoint.parts) (·.location) (Flawed GeoPoint.parts),
  .optional "http" (RecordText HttpRequest.parts) (·.http) (Flawed HttpRequest.parts)]

/-! ### How it is read -/

theorem wrong_never {α : Type} {read : Reader α} {t : List Char} (h : False) :
    Starts t ∧ Refuses read t :=
  h.elim

theorem wrong_flawed {ρ : Type} {shape : Shape ρ} (d : Description shape) {t : List Char}
    (h : Flawed d.parts t) : Starts t ∧ Refuses shape.read t :=
  ⟨Description.starts_of_flawed h, d.refuses h⟩

/-- A position is read as it is written. -/
def GeoPoint.description : Description GeoPoint.shape where
  slots := [
    .required "latitude" understands_double (·.latitude) fun x p => { p with latitude := x },
    .required "longitude" understands_double (·.longitude) fun x p => { p with longitude := x }]

/-- A request is read as it is written. -/
def HttpRequest.description : Description HttpRequest.shape where
  slots := [
    .required "method" understands_text (·.method) fun x r => { r with method := x },
    .required "path" understands_text (·.path) fun x r => { r with path := x },
    .optional "host" understands_text (·.host) (fun x r => { r with host := x }) rfl wrong_never]

/-- An event is read as it is written. -/
def Event.description : Description Event.shape where
  slots := [
    .defaulted "user_id" understands_text (·.userId) (fun x e => { e with userId := x }) "" rfl,
    .optional "app_name" understands_text (·.appName) (fun x e => { e with appName := x }) rfl
      wrong_never,
    .required "app_uid" understands_int32 (·.appUid) fun x e => { e with appUid := x },
    .required "protocol" understands_text (·.protocol) fun x e => { e with protocol := x },
    .optional "domain" understands_text (·.domain) (fun x e => { e with domain := x }) rfl
      wrong_never,
    .optional "src_ip" understands_text (·.sourceIp) (fun x e => { e with sourceIp := x }) rfl
      wrong_never,
    .optional "src_port" understands_uint16 (·.sourcePort) (fun x e => { e with sourcePort := x })
      rfl wrong_never,
    .optional "dst_ip" understands_text (·.targetIp) (fun x e => { e with targetIp := x }) rfl
      wrong_never,
    .optional "dst_port" understands_uint16 (·.targetPort) (fun x e => { e with targetPort := x })
      rfl wrong_never,
    .defaulted "bytes_tx" understands_int64 (·.bytesSent) (fun x e => { e with bytesSent := x }) 0
      rfl,
    .defaulted "bytes_rx" understands_int64 (·.bytesReceived)
      (fun x e => { e with bytesReceived := x }) 0 rfl,
    .defaulted "packets_tx" understands_int64 (·.packetsSent)
      (fun x e => { e with packetsSent := x }) 0 rfl,
    .defaulted "packets_rx" understands_int64 (·.packetsReceived)
      (fun x e => { e with packetsReceived := x }) 0 rfl,
    .required "start_ts" understands_int64 (·.startTime) fun x e => { e with startTime := x },
    .required "end_ts" understands_int64 (·.endTime) fun x e => { e with endTime := x },
    .optional "location" GeoPoint.description.understands (·.location)
      (fun x e => { e with location := x }) rfl (wrong_flawed GeoPoint.description),
    .optional "http" HttpRequest.description.understands (·.http)
      (fun x e => { e with http := x }) rfl (wrong_flawed HttpRequest.description)]

/-- A text that spells an event is read as it, and an object that is no event is not read. -/
theorem Event.one_meaning :
    (∀ (e : Event) (text : String), Whole (RecordText Event.parts e) text →
      Event.ofJson text = .ok e) ∧
    ∀ text : String, Whole (Flawed Event.parts) text → ∀ e, Event.ofJson text ≠ .ok e :=
  ⟨fun _ _ h => Event.description.understands.whole h,
    fun _ h => whole_ne_of_refuses Event.description.refuses h⟩

section Written

namespace Event

/-- No blanks. -/
def noBlank : Blank := ⟨[], nofun⟩

/-- A member with a plain key and a blank after its colon. -/
def written (key value : String) : Member where
  before := noBlank
  key := key.toList
  afterKey := noBlank
  afterColon := ⟨[' '], by simp [blanks]⟩
  value := value.toList
  after := noBlank

/-- Keys without escapes that are not the same spell no name twice. -/
theorem once_of_plain {ρ : Type} {parts : List (Json.Part ρ)} {ms : List Member}
    (plain : ∀ m ∈ ms, m.key.all fun c => decide (IsPlain c)) (distinct : (ms.map (·.key)).Nodup) :
    ms.Pairwise fun m m' =>
      ∀ p ∈ parts, ¬ (SpellsText p.name m.key ∧ SpellsText p.name m'.key) := by
  have own (m : Member) (hm : m ∈ ms) : SpellsText (String.ofList m.key) m.key := by
    have spells : SpellsText (String.ofList m.key) (String.ofList m.key).toList :=
      .of_plain (by simpa using plain m hm)
    rwa [String.toList_ofList] at spells
  refine List.Pairwise.imp_of_mem (fun {m m'} hm hm' other p _ both => other ?_)
    (List.pairwise_map.mp distinct)
  have same := ((both.1.unique (own m hm)).symm.trans (both.2.unique (own m' hm')))
  simpa using congrArg String.toList same

/-- An event of which nothing is known that may be left out. -/
def bare : Event := { appUid := 10001, protocol := "UDP", startTime := 10, endTime := 25 }

/-- Its member for the end. -/
def bareEnd : Member := written "end_ts" "25"

/-- Its members in another order, with one that is not known. -/
def bareMembers : List Member := [
  bareEnd, written "note" "[null]", written "protocol" "\"UDP\"",
  written "app_uid" "10001", written "start_ts" "10"]

theorem bareMembers_keys : ∀ m ∈ bareMembers, m.key.all fun c => decide (IsPlain c) := by decide

theorem bareMembers_values : ∀ m ∈ bareMembers, IsValue m.value := by
  simp only [bareMembers, List.forall_mem_cons]
  refine ⟨isValue_printInt 25, ?_, .text (k := "UDP".toList) (.of_plain (by decide)),
    isValue_printInt 10001, isValue_printInt 10, nofun⟩
  show IsValue (listText noBlank [⟨noBlank, nullText, noBlank⟩])
  exact .list noBlank (by simp [IsValue.null])

theorem bareMembers_text : MembersText parts bare bareMembers where
  each := by
    have values := bareMembers_values
    simp only [bareMembers, List.forall_mem_cons] at values ⊢
    refine ⟨.inl ⟨parts[14], List.getElem_mem _, .of_plain (by decide), rfl⟩,
      .inr ⟨⟨"note", .of_plain (by decide), by decide⟩, values.2.1⟩,
      .inl ⟨parts[3], List.getElem_mem _, .of_plain (by decide), ?_⟩,
      .inl ⟨parts[2], List.getElem_mem _, .of_plain (by decide), rfl⟩,
      .inl ⟨parts[13], List.getElem_mem _, .of_plain (by decide), rfl⟩, nofun⟩
    exact ⟨"UDP".toList, .of_plain (by decide), rfl⟩
  once := once_of_plain bareMembers_keys (by decide)
  rest := by
    have spelled (name : String) (i : Nat) (hi : i < bareMembers.length)
        (key : bareMembers[i].key = name.toList) : ∃ m ∈ bareMembers, SpellsText name m.key :=
      ⟨_, List.getElem_mem hi, key ▸ .of_plain (key ▸ bareMembers_keys _ (List.getElem_mem hi))⟩
    simp only [parts, List.forall_mem_cons]
    exact ⟨.inr rfl, .inr rfl, .inl (spelled _ 3 (by decide) rfl),
      .inl (spelled _ 2 (by decide) rfl), .inr rfl, .inr rfl, .inr rfl, .inr rfl, .inr rfl, .inr rfl,
      .inr rfl, .inr rfl, .inr rfl, .inl (spelled _ 4 (by decide) rfl),
      .inl (spelled _ 0 (by decide) rfl), .inr rfl, .inr rfl, nofun⟩

/-- An object with these members is the event, and is none with one of them twice. -/
theorem one_meaning_bare :
    ofJson ("\x7b\"end_ts\": 25,\"note\": [null],\"protocol\": \"UDP\"," ++
      "\"app_uid\": 10001,\"start_ts\": 10\x7d") = .ok bare ∧
    ∀ e, ofJson ("\x7b\"end_ts\": 25,\"end_ts\": 25,\"note\": [null],\"protocol\": \"UDP\"," ++
      "\"app_uid\": 10001,\"start_ts\": 10\x7d") ≠ .ok e := by
  have keys (m : Member) (hm : m ∈ bareMembers) : IsContent m.key :=
    .of_plain (bareMembers_keys m hm)
  have name : SpellsText "end_ts" bareEnd.key := .of_plain (by decide)
  have twice : [bareEnd, bareEnd].Sublist (bareEnd :: bareMembers) :=
    (List.singleton_sublist.mpr List.mem_cons_self).cons_cons _
  constructor
  · refine one_meaning.1 bare _ ⟨noBlank, noBlank, _, .object noBlank bareMembers_text, ?_⟩
    decide
  · refine one_meaning.2 _ ⟨noBlank, noBlank, _,
      .object noBlank (List.forall_mem_cons.mpr ⟨keys _ List.mem_cons_self, keys⟩)
        (List.forall_mem_cons.mpr ⟨bareMembers_values _ List.mem_cons_self, bareMembers_values⟩)
        (.repeated (p := parts[14]) (List.getElem_mem _) twice name name), ?_⟩
    decide

end Event

end Written

end Outbox
