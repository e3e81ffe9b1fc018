import LoadMonitor.Dashboard.Frame
import LoadMonitor.Proofs.Text.Split

/-!
# Lines of a frame

A text is cut into its lines again as long as no line holds a line end. Those of a frame hold
none unless the service has put it there: numbers are written with digits and a few other
characters.
-/

namespace LoadMonitor

/-- There is no line end in the text. -/
def OneLine (text : String) : Prop := '\n' ∉ text.toList

instance (text : String) : Decidable (OneLine text) := inferInstanceAs (Decidable ('\n' ∉ _))

namespace OneLine

@[simp] theorem append_iff (a b : String) : OneLine (a ++ b) ↔ OneLine a ∧ OneLine b := by
  unfold OneLine
  rw [String.toList_append, List.mem_append, not_or]

@[simp] theorem ofList_iff (cs : List Char) : OneLine (String.ofList cs) ↔ '\n' ∉ cs := by
  unfold OneLine
  rw [String.toList_ofList]

/-- Lines with their ends are the same text only if they are the same lines. -/
theorem join_inj {ls ms : List String} (hls : ∀ l ∈ ls, OneLine l) (hms : ∀ m ∈ ms, OneLine m)
    (h : String.join (ls.map (· ++ "\n")) = String.join (ms.map (· ++ "\n"))) : ls = ms := by
  replace h := congrArg String.toList h
  simp only [String.toList_join, List.flatMap_map, String.toList_append] at h
  induction ls generalizing ms with
  | nil =>
      cases ms with
      | nil => rfl
      | cons m ms => simp at h
  | cons l ls ih =>
      cases ms with
      | nil => simp at h
      | cons m ms =>
          obtain ⟨hl, hls⟩ := List.forall_mem_cons.mp hls
          obtain ⟨hm, hms⟩ := List.forall_mem_cons.mp hms
          simp only [List.flatMap_cons, List.append_assoc] at h
          -- The first line ends where the first line end stands.
          obtain ⟨hline, hrest⟩ := append_cons_inj hl hm h
          rw [String.toList_inj.mp hline, ih hls hms hrest]

end OneLine

/-! ## Numbers -/

theorem notMem_toDigits {c : Char} (hc : c.isDigit = false) (n : Nat) :
    c ∉ Nat.toDigits 10 n := by
  intro hmem
  rw [Nat.isDigit_of_mem_toDigits (by decide) (Nat.le_refl 10) hmem] at hc
  cases hc

theorem newline_notMem_toDigits (n : Nat) : '\n' ∉ Nat.toDigits 10 n :=
  notMem_toDigits (by decide) n

@[simp] theorem oneLine_repr (n : Nat) : OneLine n.repr := by
  unfold OneLine
  rw [Nat.toList_repr]
  exact newline_notMem_toDigits n

namespace Binary64

theorem newline_notMem_fixedMagnitude (places : Nat) (x : Binary64) :
    '\n' ∉ fixedMagnitude places x := by
  unfold fixedMagnitude paddedDigits
  dsimp only
  split
  · exact newline_notMem_toDigits _
  · simp [newline_notMem_toDigits, List.mem_replicate]

@[simp] theorem oneLine_fixed (places : Nat) (x : Binary64) : OneLine (x.fixed places) := by
  unfold fixed
  split
  · decide
  · have hbody : '\n' ∉ if x.isInfinite then "inf".toList else fixedMagnitude places x := by
      split
      · decide
      · exact newline_notMem_fixedMagnitude places x
    dsimp only
    rw [OneLine.ofList_iff]
    split
    · exact List.not_mem_cons_of_ne_of_not_mem (by decide) hbody
    · exact hbody

end Binary64

namespace Grouped

theorem mem_digits {c : Char} {cs : List Char} (h : c ∈ digits cs) : c = ',' ∨ c ∈ cs := by
  induction cs using digits.induct with
  | case1 => cases h
  | case2 d => exact .inr h
  | case3 d e rest hcomma ih =>
      rw [digits, if_pos hcomma] at h
      rcases List.mem_cons.mp h with rfl | h
      · exact .inr List.mem_cons_self
      · rcases List.mem_cons.mp h with rfl | h
        · exact .inl rfl
        · exact (ih h).imp_right (List.mem_cons_of_mem d)
  | case4 d e rest hplain ih =>
      rw [digits, if_neg hplain] at h
      rcases List.mem_cons.mp h with rfl | h
      · exact .inr List.mem_cons_self
      · exact (ih h).imp_right (List.mem_cons_of_mem d)

@[simp] theorem oneLine_text (x : Binary64) : OneLine (text x) := by
  have hdigits : '\n' ∉ digits (Nat.toDigits 10 (magnitude x)) := by
    intro hmem
    rcases mem_digits hmem with hcomma | hmem
    · exact absurd hcomma (by decide)
    · exact newline_notMem_toDigits _ hmem
  unfold text
  dsimp only
  rw [OneLine.ofList_iff]
  split
  · exact List.not_mem_cons_of_ne_of_not_mem (by decide) hdigits
  · exact hdigits

end Grouped

@[simp] theorem Uptime.oneLine_text (u : Uptime) : OneLine u.text := by
  unfold text
  have hd : OneLine "d " := by decide
  have hh : OneLine "h " := by decide
  have hm : OneLine "m" := by decide
  simp [hd, hh, hm]

/-! ## Names and colours -/

theorem oneLine_toUpper {text : String} (h : '\n' ∉ text.toList.map Char.toUpper) :
    OneLine text.toUpper := by
  unfold OneLine String.toUpper
  rwa [String.toList_map]

@[simp] theorem HealthStatus.oneLine_label (s : HealthStatus) : OneLine s.label.toUpper := by
  apply oneLine_toUpper
  cases s <;> decide

@[simp] theorem AlertSeverity.oneLine_label (s : AlertSeverity) : OneLine s.label.toUpper := by
  apply oneLine_toUpper
  cases s <;> decide

namespace Colour

@[simp] theorem oneLine_ofStatus (s : HealthStatus) : OneLine (ofStatus s) := by
  cases s <;> decide

@[simp] theorem oneLine_ofSeverity (s : AlertSeverity) : OneLine (ofSeverity s) := by
  cases s <;> decide

@[simp] theorem oneLine_paint (colour text : String) :
    OneLine (paint colour text) ↔ OneLine colour ∧ OneLine text := by
  have hplain : OneLine plain := by decide
  simp [paint, hplain]

end Colour

/-! ## Snapshots -/

/-- The texts of a snapshot that are shown have no line end. -/
structure Snapshot.OnOneLine (s : Snapshot) : Prop where
  version : OneLine s.health.version
  alerts : ∀ a ∈ s.alerts.take 5, OneLine a.name ∧ OneLine a.message

namespace Frame

theorem oneLine_alertLine {a : AlertSnapshot} (h : OneLine a.name ∧ OneLine a.message) :
    OneLine (alertLine a) := by
  have hopen : OneLine "[" := by decide
  have hclose : OneLine "]" := by decide
  have hblank : OneLine " " := by decide
  have hcolon : OneLine ": " := by decide
  simp [alertLine, hopen, hclose, hblank, hcolon, h]

theorem oneLine_alertLines {alerts : List AlertSnapshot}
    (h : ∀ a ∈ alerts.take 5, OneLine a.name ∧ OneLine a.message) :
    ∀ l ∈ alertLines alerts, OneLine l := by
  intro l hmem
  unfold alertLines at hmem
  split at hmem
  · rw [List.mem_singleton.mp hmem]
    decide
  · obtain ⟨a, ha, rfl⟩ := List.mem_map.mp hmem
    exact oneLine_alertLine (h a ha)

/-- No line of a frame holds a line end unless what is shown does. -/
theorem oneLine_of_mem_lines {s : Snapshot} (h : s.OnOneLine) : ∀ l ∈ lines s, OneLine l := by
  unfold lines
  rw [List.forall_mem_append, List.forall_mem_append]
  refine ⟨⟨?_, oneLine_alertLines h.alerts⟩, by decide⟩
  -- What is left to decide are the fixed texts.
  simp only [List.forall_mem_cons, measured, counted, OneLine.append_iff, Binary64.oneLine_fixed,
    Grouped.oneLine_text, Uptime.oneLine_text, Colour.oneLine_paint, Colour.oneLine_ofStatus,
    HealthStatus.oneLine_label, h.version, and_true]
  decide

end Frame
end LoadMonitor
