import Mathlib.Data.List.Forall2
import Outbox.Proofs.Json.Number
import Outbox.Proofs.Json.Record
import Outbox.Upload.Batch

/-!
# What the collector reads

The body of a request is an object with one list, and each element of the list is read back as what
is told of its record (`body_decodes`).
-/

namespace Outbox

open Json

namespace AnonymizedEvent

/-- The event without coordinates that are not finite. -/
def finite (e : AnonymizedEvent) : AnonymizedEvent :=
  { e with
    latitude := e.latitude.filter Binary64.isFinite
    longitude := e.longitude.filter Binary64.isFinite }

/-- The finite coordinates are read back from their texts. -/
def Readable (e : AnonymizedEvent) : Prop :=
  ∀ x ∈ e.latitude.toList ++ e.longitude.toList, x.isFinite = true → ReadsBack x

instance (e : AnonymizedEvent) : Decidable e.Readable :=
  List.decidableBAll (fun x => x.isFinite = true → ReadsBack x)
    (e.latitude.toList ++ e.longitude.toList)

/-- The fields of an event with the texts that are written for them. -/
def filled (e : AnonymizedEvent) : List (Filled AnonymizedEvent) := [
  .needed "user_hash" text (fun x e => { e with userHash := x }) (printText e.userHash) e.userHash,
  .nullable "app_name" text (fun x e => { e with appName := x })
    (printOption printText e.appName) e.appName,
  .needed "app_uid" int32 (fun x e => { e with appUid := x }) (printInt e.appUid.toInt) e.appUid,
  .needed "protocol" text (fun x e => { e with protocol := x }) (printText e.protocol) e.protocol,
  .nullable "domain_hash" text (fun x e => { e with domainHash := x })
    (printOption printText e.domainHash) e.domainHash,
  .nullable "dst_ip_hash" text (fun x e => { e with targetIpHash := x })
    (printOption printText e.targetIpHash) e.targetIpHash,
  .nullable "dst_port" uint16 (fun x e => { e with targetPort := x })
    (printOption (fun p : UInt16 => printInt p.toNat) e.targetPort) e.targetPort,
  .needed "bytes_tx" int64 (fun x e => { e with bytesSent := x })
    (printInt e.bytesSent.toInt) e.bytesSent,
  .needed "bytes_rx" int64 (fun x e => { e with bytesReceived := x })
    (printInt e.bytesReceived.toInt) e.bytesReceived,
  .needed "packets_tx" int64 (fun x e => { e with packetsSent := x })
    (printInt e.packetsSent.toInt) e.packetsSent,
  .needed "packets_rx" int64 (fun x e => { e with packetsReceived := x })
    (printInt e.packetsReceived.toInt) e.packetsReceived,
  .needed "start_ts" int64 (fun x e => { e with startTime := x })
    (printInt e.startTime.toInt) e.startTime,
  .needed "end_ts" int64 (fun x e => { e with endTime := x }) (printInt e.endTime.toInt) e.endTime,
  .needed "duration_ms" int64 (fun x e => { e with duration := x })
    (printInt e.duration.toInt) e.duration,
  .nullable "latitude" double (fun x e => { e with latitude := x })
    (printOption printDouble e.latitude) (e.latitude.filter Binary64.isFinite),
  .nullable "longitude" double (fun x e => { e with longitude := x })
    (printOption printDouble e.longitude) (e.longitude.filter Binary64.isFinite)]

theorem filled_field (e : AnonymizedEvent) : e.filled.map (·.field) = shape.fields := rfl

theorem filled_member (e : AnonymizedEvent) : e.filled.map Filled.member = e.members := rfl

/-- Every field of a record is overwritten. -/
theorem filled_record (e r : AnonymizedEvent) : Filled.record e.filled r = e.finite := by
  simp only [Filled.record, filled, List.foldl_cons, List.foldl_nil, Filled.needed,
    Filled.nullable, finite]

theorem filled_back {e : AnonymizedEvent} (h : e.Readable) : ∀ x ∈ e.filled, x.Back := by
  have texts (t? : Option String) := reads_printOption reads_text starts_printText t?
  have ports (p? : Option UInt16) :=
    reads_printOption reads_uint16 (fun p => starts_printInt p.toNat) p?
  have latitude : Reads (optional double) (printOption printDouble e.latitude)
      (e.latitude.filter Binary64.isFinite) :=
    reads_coordinate fun x hx => h x (by simp [hx])
  have longitude : Reads (optional double) (printOption printDouble e.longitude)
      (e.longitude.filter Binary64.isFinite) :=
    reads_coordinate fun x hx => h x (by simp [hx])
  simp only [filled, List.forall_mem_cons]
  exact ⟨Filled.back_needed (reads_text _), Filled.back_nullable (texts _),
    Filled.back_needed (reads_int32 _), Filled.back_needed (reads_text _),
    Filled.back_nullable (texts _), Filled.back_nullable (texts _),
    Filled.back_nullable (ports _), Filled.back_needed (reads_int64 _),
    Filled.back_needed (reads_int64 _), Filled.back_needed (reads_int64 _),
    Filled.back_needed (reads_int64 _), Filled.back_needed (reads_int64 _),
    Filled.back_needed (reads_int64 _), Filled.back_needed (reads_int64 _),
    Filled.back_nullable latitude, Filled.back_nullable longitude, fun _ h => absurd h List.not_mem_nil⟩

theorem names_nodup : (shape.fields.map (·.name)).Nodup := by decide

theorem reads_print {e : AnonymizedEvent} (h : e.Readable) : Reads shape.read e.print e.finite := by
  have back : Reads shape.read (printObject (e.filled.map Filled.member))
      (Filled.record e.filled shape.blank) :=
    Shape.reads_printObject (by simp [filled]) e.filled_field names_nodup (filled_back h)
  rwa [e.filled_member, e.filled_record] at back

theorem reads_print_strict {e : AnonymizedEvent} (h : e.Readable) :
    Reads shape.strict.read e.print e.finite := by
  have back : Reads shape.strict.read (printObject (e.filled.map Filled.member))
      (Filled.record e.filled shape.blank) :=
    Shape.reads_printObject_strict (by simp [filled]) e.filled_field names_nodup (filled_back h)
  rwa [e.filled_member, e.filled_record] at back

end AnonymizedEvent

theorem decode_of_reads {ρ : Type} {shape : Shape ρ} {printed : List Char} {r : ρ}
    (h : Reads shape.read printed r) : shape.decode (String.ofList printed) = .ok r := by
  rw [Shape.decode, String.toList_ofList]
  exact h.whole

/-- A list of parts is written with commas between them. -/
theorem commaSeparated_eq_intercalate (parts : List (List Char)) :
    commaSeparated parts = [','].intercalate parts := by
  induction parts with
  | nil => rfl
  | cons part parts ih =>
    cases parts with
    | nil => simp [commaSeparated]
    | cons next parts => simp [commaSeparated, ih, List.intercalate_cons_cons]

theorem Batch.bodyText_eq (b : Batch) : b.bodyText = "\x7b\"requests\":[" ++
    ",".intercalate (b.events.map fun e => String.ofList e.print) ++ "]\x7d" := by
  apply String.toList_injective
  rw [bodyText, String.toList_ofList, String.toList_append, String.toList_append,
    String.toList_intercalate, List.map_map]
  have items : b.events.map (String.toList ∘ fun e => String.ofList e.print) =
      b.events.map AnonymizedEvent.print := by
    simp
  have key : printText "requests" = "\"requests\"".toList := by decide
  rw [items, body, printObject, List.map_singleton, commaSeparated, printMember, key, printList,
    commaSeparated_eq_intercalate]
  simp

theorem body_decodes (a : Anonymizer) (records : List Record)
    (h : ∀ r ∈ records, (a.transform r).Readable) :
    ∃ texts : List String,
      (Batch.assemble a records).bodyText =
        "\x7b\"requests\":[" ++ ",".intercalate texts ++ "]\x7d" ∧
      List.Forall₂ (fun text r =>
        AnonymizedEvent.ofJson text = .ok (a.transform r).finite ∧
        AnonymizedEvent.shape.strict.decode text = .ok (a.transform r).finite) texts records := by
  refine ⟨_, Batch.bodyText_eq _, ?_⟩
  rw [Batch.assemble, List.map_map, List.forall₂_map_left_iff, List.forall₂_same]
  intro r hr
  exact ⟨decode_of_reads (AnonymizedEvent.reads_print (h r hr)),
    decode_of_reads (AnonymizedEvent.reads_print_strict (h r hr))⟩

/-- An event with characters that are written with a backslash, the least and the greatest integer,
and a position. -/
def escaping : Event :=
  { userId := "\"", appName := some "C:\\", appUid := -2147483648, protocol := "TCP\n\x01é"
    bytesSent := -9223372036854775808, startTime := 9223372036854775807, endTime := 0
    location := some ⟨⟨0x404a428f5c28f5c3⟩, ⟨0xc02acf5c28f5c28f⟩⟩ }

/-- An event at a position that is too large for the rounding. -/
def faraway : Event :=
  { appUid := 0, protocol := "", startTime := 0, endTime := 0
    location := some ⟨⟨0x7fe1ccf385ebc8a0⟩, ⟨0x8000000000000000⟩⟩ }

/-- Both are read back, the second one without its latitude. -/
theorem body_decodes_escaping :
    (∃ texts : List String,
      (Batch.assemble .standard [⟨1, .pending, escaping⟩, ⟨2, .pending, faraway⟩]).bodyText =
        "\x7b\"requests\":[" ++ ",".intercalate texts ++ "]\x7d" ∧
      List.Forall₂ (fun text r =>
        AnonymizedEvent.ofJson text = .ok (Anonymizer.standard.transform r).finite ∧
        AnonymizedEvent.shape.strict.decode text = .ok (Anonymizer.standard.transform r).finite)
        texts [⟨1, .pending, escaping⟩, ⟨2, .pending, faraway⟩]) ∧
    (Anonymizer.standard.transform ⟨2, .pending, faraway⟩).finite.latitude = none := by
  refine ⟨body_decodes .standard [⟨1, .pending, escaping⟩, ⟨2, .pending, faraway⟩] ?_, ?_⟩
  · decide +kernel
  · decide +kernel

end Outbox
