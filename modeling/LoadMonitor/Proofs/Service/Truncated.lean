import LoadMonitor.Client.Basic
import LoadMonitor.Proofs.Json.Delimited
import Mathlib

/-!
# Truncated responses

Almost every field of an answer may be missing, so it is only its brackets that tell half an answer
from a whole one. They always do: an answer of which something has been cut off is never read.
-/

namespace LoadMonitor

open Json

/-! ## The fields of the formats -/

/-- What is read into a draft stops where the value stops. -/
theorem Json.Continues.bind_set {α δ : Type} {read : Bytes → Reading (α × Bytes)}
    (h : Continues read) (set : α → δ) :
    Continues fun bs => do
      let (a, bs) ← read bs
      return (set a, bs) := by
  intro bs draft rest hread hrest more
  obtain ⟨⟨a, rest'⟩, hvalue, hread⟩ := Reading.bind_eq_ok.mp hread
  cases hread
  dsimp only
  rw [h hvalue hrest more]
  rfl

theorem healthFormat_fieldsContinue : healthFormat.FieldsContinue := by
  intro field hfield draft
  simp only [healthFormat, List.mem_cons, List.not_mem_nil, or_false] at hfield
  rcases hfield with rfl | rfl | rfl
  · exact readName_delimited.continues.bind_set fun name =>
      { draft with status := some (.ofLabel name) }
  · exact (readText_delimited _).continues.bind_set fun version =>
      { draft with version := some version }
  · exact readDouble_continues.bind_set fun seconds => { draft with uptimeSeconds := some seconds }

theorem metricFormat_fieldsContinue : metricFormat.FieldsContinue := by
  intro field hfield draft
  simp only [metricFormat, List.mem_cons, List.not_mem_nil, or_false] at hfield
  rcases hfield with rfl | rfl
  · exact (readText_delimited _).continues.bind_set fun name => { draft with name := some name }
  · exact readDouble_continues.bind_set fun value => { draft with value := some value }

theorem alertFormat_fieldsContinue : alertFormat.FieldsContinue := by
  intro field hfield draft
  simp only [alertFormat, List.mem_cons, List.not_mem_nil, or_false] at hfield
  rcases hfield with rfl | rfl | rfl
  · exact readName_delimited.continues.bind_set fun name =>
      { draft with severity := some (.ofLabel name) }
  · exact (readText_delimited _).continues.bind_set fun name => { draft with name := some name }
  · exact (readText_delimited _).continues.bind_set fun message =>
      { draft with message := some message }

theorem metricsFormat_fieldsContinue : metricsFormat.FieldsContinue := by
  intro field hfield draft
  obtain rfl := List.mem_singleton.mp hfield
  have hmetric := Format.read_delimited metricFormat_fieldsContinue
  exact (readList_delimited hmetric.continues).continues.bind_set some

theorem alertsFormat_fieldsContinue : alertsFormat.FieldsContinue := by
  intro field hfield draft
  obtain rfl := List.mem_singleton.mp hfield
  have halert := Format.read_delimited alertFormat_fieldsContinue
  exact (readList_delimited halert.continues).continues.bind_set some

/-! ## Answers -/

/-- A call that is answered with the bytes fails, because they are no record. -/
def Json.Format.Rejects {δ α : Type} (f : Format δ α) (bs : Bytes) : Prop :=
  ∃ cause, f.ofBytes bs = .error cause ∧
    ∀ (r : HttpRequest) (status : Nat), isErrorStatus status = false →
      Client.decoded f.ofBytes r (.ok ⟨status, bs, none⟩) = .error (.undecodable r cause)

theorem Json.Format.rejects_of_append {δ α : Type} {f : Format δ α} (hf : f.FieldsContinue)
    {kept lacking : Bytes} {record : α} (hwhole : f.ofBytes (kept ++ lacking) = .ok record)
    (hlacking : ∃ b ∈ lacking, isBlank b = false) : f.Rejects kept := by
  cases hkept : f.ofBytes kept with
  | ok record' =>
      obtain ⟨b, hb, hsolid⟩ := hlacking
      have hblank := Format.ofBytes_append hf hkept hwhole b hb
      rw [hsolid] at hblank
      cases hblank
  | error cause =>
      refine ⟨cause, hkept, fun r status hstatus => ?_⟩
      simp [Client.decoded_ok, hstatus, hkept]

/-- A truncated answer is never taken for data. If a text that is accepted as an answer is cut off
so that anything but blanks is lacking, what is left of it is rejected, for each kind of answer. -/
theorem truncated_rejected {kept lacking : Bytes} (hlacking : ∃ b ∈ lacking, isBlank b = false) :
    (∀ health, healthFormat.ofBytes (kept ++ lacking) = .ok health → healthFormat.Rejects kept) ∧
    (∀ metrics, metricsFormat.ofBytes (kept ++ lacking) = .ok metrics →
      metricsFormat.Rejects kept) ∧
    (∀ alerts, alertsFormat.ofBytes (kept ++ lacking) = .ok alerts →
      alertsFormat.Rejects kept) := by
  refine ⟨fun _ hwhole => ?_, fun _ hwhole => ?_, fun _ hwhole => ?_⟩
  · exact Format.rejects_of_append healthFormat_fieldsContinue hwhole hlacking
  · exact Format.rejects_of_append metricsFormat_fieldsContinue hwhole hlacking
  · exact Format.rejects_of_append alertsFormat_fieldsContinue hwhole hlacking

set_option maxRecDepth 10000 in
/-- A report of which only the last brace and the end of its line are lacking. -/
theorem truncated_rejected_brace :
    let kept := "\x7b\"load\":[1.5,\x7b\"a\":null\x7d],\"version\":\"7\"".toUTF8.toList
    healthFormat.ofBytes (kept ++ [0x7d, 0x0a]) = .ok ⟨.unknown, "7", .zero⟩ ∧
      healthFormat.Rejects kept := by
  intro kept
  have hwhole : healthFormat.ofBytes (kept ++ [0x7d, 0x0a]) = .ok ⟨.unknown, "7", .zero⟩ := by
    unfold kept
    cbv
  exact ⟨hwhole, (truncated_rejected ⟨0x7d, by decide, by decide⟩).1 _ hwhole⟩

end LoadMonitor
