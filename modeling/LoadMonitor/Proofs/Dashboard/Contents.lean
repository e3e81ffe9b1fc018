import LoadMonitor.Proofs.Dashboard.Lines
import Mathlib.Data.List.Forall2

/-!
# What a frame tells

Two snapshots give the same frame exactly if they agree on what is shown of them. Everything that
is shown can be read off the frame, and nothing else of a snapshot has any bearing on it.
-/

namespace LoadMonitor

/-! ## Codes -/

namespace Colour

/-- The colours that are used. -/
def all : List String := [plain, red, green, yellow, blue]

/-- Where a colour begins, one can tell which it is and where it ends. -/
theorem append_inj {c d x y : String} (hc : c ∈ all) (hd : d ∈ all) (h : c ++ x = d ++ y) :
    c = d ∧ x = y := by
  have hcolour : c = d := by
    have hlong : ∀ c ∈ all, 4 ≤ c.toList.length := by decide
    have hcodes : ∀ c ∈ all, ∀ d ∈ all, c.toList.take 4 = d.toList.take 4 → c = d := by decide
    -- So the first four characters of the whole text tell the colour.
    apply hcodes c hc d hd
    have htake := congrArg (List.take 4 ∘ String.toList) h
    simpa [List.take_append_of_le_length (hlong c hc), List.take_append_of_le_length (hlong d hd)]
      using htake
  subst hcolour
  exact ⟨rfl, (String.append_right_inj c).mp h⟩

theorem paint_eq (colour text : String) : paint colour text = colour ++ (text ++ plain) :=
  String.append_assoc

theorem ofStatus_mem (s : HealthStatus) : ofStatus s ∈ all := by cases s <;> decide

theorem ofSeverity_mem (s : AlertSeverity) : ofSeverity s ∈ all := by cases s <;> decide

theorem ofStatus_inj {s t : HealthStatus} (h : ofStatus s = ofStatus t) : s = t := by
  revert h
  cases s <;> cases t <;> decide

theorem ofSeverity_inj {s t : AlertSeverity} (h : ofSeverity s = ofSeverity t) : s = t := by
  revert h
  cases s <;> cases t <;> decide

end Colour

/-! ## Uptimes -/

theorem toDigits_inj {m n : Nat} (h : Nat.toDigits 10 m = Nat.toDigits 10 n) : m = n := by
  have hread := congrArg (Nat.ofDigitChars 10 · 0) h
  simpa only [Nat.ofDigitChars_toDigits (by decide : 1 < 10) (Nat.le_refl 10)] using hread

namespace Uptime

theorem toList_text (u : Uptime) : u.text.toList =
    Nat.toDigits 10 u.days ++ 'd' :: ' ' :: (Nat.toDigits 10 u.hours ++ 'h' :: ' ' ::
      (Nat.toDigits 10 u.minutes ++ ['m'])) := by
  simp [text, Nat.toList_repr]

/-- Each number ends where its letter stands. -/
theorem text_inj {u v : Uptime} (h : u.text = v.text) : u = v := by
  have hchars := congrArg String.toList h
  rw [toList_text, toList_text] at hchars
  obtain ⟨hdays, hchars⟩ := append_cons_inj (notMem_toDigits (by decide) _)
    (notMem_toDigits (by decide) _) hchars
  obtain ⟨hhours, hchars⟩ := append_cons_inj (notMem_toDigits (by decide) _)
    (notMem_toDigits (by decide) _) (List.cons.inj hchars).2
  have hminutes := List.append_cancel_right (List.cons.inj hchars).2
  rw [Uptime.mk.injEq]
  exact ⟨toDigits_inj hdays, toDigits_inj hhours, toDigits_inj hminutes⟩

/-- The days, hours and minutes tell the number of whole minutes, and nothing more. -/
theorem ofSeconds_eq_iff (m n : Nat) : ofSeconds m = ofSeconds n ↔ m / 60 = n / 60 := by
  unfold ofSeconds
  rw [Uptime.mk.injEq]
  omega

end Uptime

/-! ## Alerts -/

namespace Frame

/-- An alert as it can be told from its line. -/
def alertShown (a : AlertSnapshot) : AlertSeverity × String :=
  (a.severity, a.name ++ ": " ++ a.message)

theorem alertLine_eq (a : AlertSnapshot) : alertLine a =
    Colour.ofSeverity a.severity ++
      ("[" ++ a.severity.label.toUpper ++ "]" ++ Colour.plain ++ " " ++
        (a.name ++ ": " ++ a.message)) := by
  simp only [alertLine, Colour.paint, String.append_assoc]

theorem alertLine_eq_iff (a b : AlertSnapshot) :
    alertLine a = alertLine b ↔ alertShown a = alertShown b := by
  rw [alertLine_eq, alertLine_eq]
  unfold alertShown
  constructor
  · intro h
    obtain ⟨hcolour, htext⟩ :=
      Colour.append_inj (Colour.ofSeverity_mem _) (Colour.ofSeverity_mem _) h
    have hseverity := Colour.ofSeverity_inj hcolour
    rw [hseverity] at htext ⊢
    rw [(String.append_right_inj _).mp htext]
  · intro h
    obtain ⟨hseverity, htext⟩ := Prod.mk.inj h
    rw [hseverity, htext]

/-- The line that says that there are no alerts is green, and no alert is. -/
theorem alertLine_ne (a : AlertSnapshot) :
    alertLine a ≠ Colour.paint Colour.green "No active alerts" := by
  intro h
  rw [alertLine_eq, Colour.paint_eq] at h
  obtain ⟨hcolour, -⟩ := Colour.append_inj (Colour.ofSeverity_mem _) (by decide) h
  revert hcolour
  cases a.severity <;> decide

theorem map_eq_map_iff {α β γ : Type} {f : α → β} {g : α → γ}
    (h : ∀ a b, f a = f b ↔ g a = g b) (l m : List α) : l.map f = m.map f ↔ l.map g = m.map g := by
  simp only [← List.forall₂_eq_eq_eq, List.forall₂_map_left_iff, List.forall₂_map_right_iff, h]

theorem alertLines_cons (a : AlertSnapshot) (as : List AlertSnapshot) :
    alertLines (a :: as) = ((a :: as).take maxAlerts).map alertLine := rfl

/-- Alerts are never shown like none. -/
theorem alertLines_cons_ne_nil (a : AlertSnapshot) (as : List AlertSnapshot) :
    alertLines (a :: as) ≠ alertLines [] :=
  fun h => alertLine_ne a (List.cons.inj h).1

theorem alertLines_eq_iff (as bs : List AlertSnapshot) :
    alertLines as = alertLines bs ↔
      (as.take maxAlerts).map alertShown = (bs.take maxAlerts).map alertShown := by
  cases as with
  | nil =>
      cases bs with
      | nil => exact iff_of_true rfl rfl
      -- Both sides are false: no alerts take a line of their own, but have no contents.
      | cons b bs => exact iff_of_false (alertLines_cons_ne_nil b bs).symm (by nofun)
  | cons a as =>
      cases bs with
      | nil => exact iff_of_false (alertLines_cons_ne_nil a as) (by nofun)
      | cons b bs =>
          rw [alertLines_cons, alertLines_cons]
          exact map_eq_map_iff alertLine_eq_iff _ _

/-! ## Contents -/

/-- What is shown of a snapshot. -/
structure Contents where
  status : HealthStatus
  version : String
  /-- The whole minutes of the uptime, which is held between zero and the largest 64-bit
  integer. -/
  minutes : Nat
  ingestionRate : String
  queryRate : String
  totalLogs : String
  totalQueries : String
  averageDuration : String
  longDuration : String
  /-- The first alerts: how grave each is, and its text. -/
  alerts : List (AlertSeverity × String)
  deriving DecidableEq, Repr

def contents (s : Snapshot) : Contents where
  status := s.health.status
  version := s.health.version
  minutes := s.health.uptimeSeconds.truncate / 60
  ingestionRate := (s.metric "ingestion_rate_per_second").fixed 1
  queryRate := (s.metric "query_rate_per_second").fixed 1
  totalLogs := Grouped.text (s.metric "total_logs_ingested")
  totalQueries := Grouped.text (s.metric "total_queries_executed")
  averageDuration := (s.metric "query_duration_ms_avg").fixed 1
  longDuration := (s.metric "query_duration_ms_p99").fixed 1
  alerts := (s.alerts.take 5).map fun a => (a.severity, a.name ++ ": " ++ a.message)

theorem statusLine_eq_iff (a b : HealthStatus) :
    Colour.paint (Colour.ofStatus a) a.label.toUpper =
      Colour.paint (Colour.ofStatus b) b.label.toUpper ↔ a = b := by
  constructor
  · intro h
    rw [Colour.paint_eq, Colour.paint_eq] at h
    exact Colour.ofStatus_inj
      (Colour.append_inj (Colour.ofStatus_mem a) (Colour.ofStatus_mem b) h).1
  · rintro rfl
    rfl

/-- The lines of a frame show its contents and nothing else. -/
theorem lines_eq_iff (s t : Snapshot) : lines s = lines t ↔ contents s = contents t := by
  have halerts := alertLines_eq_iff s.alerts t.alerts
  have huptime : (Uptime.ofReport s.health.uptimeSeconds).text =
      (Uptime.ofReport t.health.uptimeSeconds).text ↔
        s.health.uptimeSeconds.truncate / 60 = t.health.uptimeSeconds.truncate / 60 := by
    rw [← Uptime.ofSeconds_eq_iff]
    exact ⟨Uptime.text_inj, congrArg Uptime.text⟩
  have hstatus := statusLine_eq_iff s.health.status t.health.status
  -- The other lines are a fixed text with what is shown at one end of it.
  unfold lines contents measured counted
  simp only [List.cons_append, List.cons.injEq, List.nil_append, List.append_cancel_right_eq,
    true_and, String.append_right_inj, String.append_left_inj, Contents.mk.injEq, halerts, huptime,
    hstatus]
  exact Iff.rfl

/-- On one line each, the lines of a frame can be told from its text. -/
theorem text_eq_iff_lines {s t : Snapshot} (hs : s.OnOneLine) (ht : t.OnOneLine) :
    text s = text t ↔ lines s = lines t := by
  unfold text pieces
  constructor
  · exact OneLine.join_inj (oneLine_of_mem_lines hs) (oneLine_of_mem_lines ht)
  · intro h
    rw [h]

/-! ## What has no bearing -/

/-- The names of the metrics that are shown. -/
def displayed : List String :=
  ["ingestion_rate_per_second", "query_rate_per_second", "total_logs_ingested",
    "total_queries_executed", "query_duration_ms_avg", "query_duration_ms_p99"]

/-- Of metrics and alerts only the values of those names and the first five alerts are shown. -/
theorem text_congr {s t : Snapshot} (hhealth : s.health = t.health)
    (hmetrics : ∀ name ∈ displayed, s.metric name = t.metric name)
    (halerts : s.alerts.take 5 = t.alerts.take 5) : text s = text t := by
  suffices contents s = contents t by
    unfold text pieces
    rw [(lines_eq_iff s t).mpr this]
  simp only [displayed, List.forall_mem_cons] at hmetrics
  obtain ⟨hingestion, hquery, hlogs, hqueries, haverage, hlong, -⟩ := hmetrics
  unfold contents
  rw [hhealth, hingestion, hquery, hlogs, hqueries, haverage, hlong, halerts]

/-- A metric that comes after one of its name is not looked at for any name. -/
theorem metric_remove {s : Snapshot} {front rest : List MetricSnapshot} {m : MetricSnapshot}
    {name : String} (hmetrics : s.metrics = front ++ m :: rest)
    (hm : m.name = name → ∃ first ∈ front, first.name = m.name) :
    Snapshot.metric { s with metrics := front ++ rest } name = s.metric name := by
  unfold Snapshot.metric
  dsimp only
  rw [hmetrics, List.find?_append, List.find?_append]
  by_cases hname : m.name = name
  · obtain ⟨first, hfirst, hsame⟩ := hm hname
    have hfound : (front.find? (·.name == name)).isSome = true := by
      rw [List.find?_isSome]
      exact ⟨first, hfirst, by rw [hsame, hname, beq_self_eq_true]⟩
    obtain ⟨found, hfound⟩ := Option.isSome_iff_exists.mp hfound
    rw [hfound, Option.some_or, Option.some_or]
  · rw [List.find?_cons_of_neg (by simpa using hname)]

/-- For each name, the metrics of that name and their order decide. -/
theorem metric_rearrange {s : Snapshot} {metrics : List MetricSnapshot} {name : String}
    (h : metrics.filter (·.name == name) = s.metrics.filter (·.name == name)) :
    Snapshot.metric { s with metrics := metrics } name = s.metric name := by
  unfold Snapshot.metric
  dsimp only
  rw [← List.head?_filter, ← List.head?_filter, h]

/-- Two frames without stray line ends are the same text exactly if they have the same contents.
No alerts are never shown like some. Alerts after the fifth have no bearing, nor have metrics of
other names or after one of their name, nor the order of metrics of different names. -/
theorem text_eq_iff {s t : Snapshot} (hs : s.OnOneLine) (ht : t.OnOneLine) :
    (text s = text t ↔ contents s = contents t) ∧
    (s.alerts = [] → t.alerts ≠ [] → text s ≠ text t) ∧
    (∀ shown later, s.alerts = shown ++ later → shown.length = 5 →
      text { s with alerts := shown } = text s) ∧
    (∀ front m rest, s.metrics = front ++ m :: rest →
      (m.name ∉ displayed ∨ ∃ first ∈ front, first.name = m.name) →
      text { s with metrics := front ++ rest } = text s) ∧
    (∀ metrics : List MetricSnapshot, (∀ name,
        metrics.filter (·.name == name) = s.metrics.filter (·.name == name)) →
      text { s with metrics := metrics } = text s) := by
  have hcontents : text s = text t ↔ contents s = contents t :=
    (text_eq_iff_lines hs ht).trans (lines_eq_iff s t)
  refine ⟨hcontents, ?_, ?_, ?_, ?_⟩
  · intro hnone hsome htext
    -- Contents tell alerts from no alerts.
    have halerts := congrArg Contents.alerts (hcontents.mp htext)
    obtain ⟨a, as, hcons⟩ := List.exists_cons_of_ne_nil hsome
    simp [contents, hnone, hcons] at halerts
  · intro shown later halerts hlength
    refine text_congr rfl (fun _ _ => rfl) ?_
    rw [halerts, List.take_append_of_le_length (Nat.le_of_eq hlength.symm)]
  · intro front m rest hmetrics hm
    refine text_congr rfl (fun name hname => metric_remove hmetrics ?_) rfl
    rintro rfl
    exact hm.resolve_left (not_not_intro hname)
  · intro metrics hmetrics
    exact text_congr rfl (fun name _ => metric_rearrange (hmetrics name)) rfl

/-- A healthy service with the given alerts. -/
def healthy (alerts : List AlertSnapshot) : Snapshot := ⟨⟨.ok, "1.0.0", .zero⟩, [], alerts⟩

/-- Where the name of an alert ends and its message begins cannot be told from its line; that it is
there can. -/
theorem text_eq_iff_colons :
    text (healthy [⟨.info, "disk", "sda: full"⟩]) = text (healthy [⟨.info, "disk: sda", "full"⟩]) ∧
      text (healthy []) ≠ text (healthy [⟨.info, "disk", "sda: full"⟩]) := by
  have hnone : (healthy []).OnOneLine := ⟨by decide, by decide⟩
  have hname : (healthy [⟨.info, "disk", "sda: full"⟩]).OnOneLine := ⟨by decide, by decide⟩
  have hmessage : (healthy [⟨.info, "disk: sda", "full"⟩]).OnOneLine := ⟨by decide, by decide⟩
  constructor
  · apply (text_eq_iff hname hmessage).1.mpr
    simp [contents, healthy, Snapshot.metric]
  · exact (text_eq_iff hnone hname).2.1 rfl (by nofun)

end Frame
end LoadMonitor
