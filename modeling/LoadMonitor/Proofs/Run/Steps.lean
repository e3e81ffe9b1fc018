/-!
# Steps in a row

A system is given by a relation between its states that names every step. What a whole run
keeps is proved from what one step keeps; the names of the steps taken so far are part of
what is kept, so an invariant can speak about the past.
-/

namespace LoadMonitor

/-- From the first state the system comes to the last one by the steps that are listed. -/
inductive Steps {S L : Type} (step : S → L → S → Prop) : S → List L → S → Prop where
  | refl (s : S) : Steps step s [] s
  | head {s t u : S} {l : L} {ls : List L} :
      step s l t → Steps step t ls u → Steps step s (l :: ls) u

namespace Steps

variable {S L : Type} {step : S → L → S → Prop} {s t u : S} {l : L} {ls ms : List L}

theorem single (h : step s l t) : Steps step s [l] t := .head h (.refl t)

theorem trans (h : Steps step s ls t) (h' : Steps step t ms u) : Steps step s (ls ++ ms) u := by
  induction h with
  | refl => exact h'
  | head hstep _ ih => exact .head hstep (ih h')

theorem split (h : Steps step s (ls ++ ms) u) :
    ∃ t, Steps step s ls t ∧ Steps step t ms u := by
  induction ls generalizing s with
  | nil => exact ⟨s, .refl s, h⟩
  | cons l ls ih =>
      cases h with
      | head hstep hrest =>
          obtain ⟨t, hls, hms⟩ := ih hrest
          exact ⟨t, .head hstep hls, hms⟩

/-- The last of several steps, taken off. -/
theorem unsnoc (h : Steps step s (ls ++ [l]) u) : ∃ t, Steps step s ls t ∧ step t l u := by
  obtain ⟨t, hls, hl⟩ := h.split
  cases hl with
  | head hstep hrefl =>
      cases hrefl
      exact ⟨t, hls, hstep⟩

/-- What holds at the beginning and is kept by every step holds after every run; the steps
taken so far are part of the statement. -/
theorem invariant {P : List L → S → Prop} (h : Steps step s ls t) (start : P [] s)
    (keep : ∀ past a l b, P past a → step a l b → P (past ++ [l]) b) : P ls t := by
  -- The induction is on the steps that follow, so the steps taken before them vary.
  suffices ∀ past, P past s → P (past ++ ls) t from this [] start
  clear start
  induction h with
  | refl => exact fun past hpast => by rwa [List.append_nil]
  | @head s t u l ls hstep _ ih =>
      intro past hpast
      have hnext : P (past ++ [l] ++ ls) u :=
        ih (past ++ [l]) (keep past s l t hpast hstep)
      rwa [List.append_assoc, List.singleton_append] at hnext

/-- What is true of the name of every single step is true of all names of a run. -/
theorem forall_labels {P : L → Prop} (h : Steps step s ls t)
    (hstep : ∀ s l t, step s l t → P l) : ∀ l ∈ ls, P l := by
  induction h with
  | refl => exact fun _ hmem => absurd hmem List.not_mem_nil
  | head hl _ ih => exact List.forall_mem_cons.mpr ⟨hstep _ _ _ hl, ih⟩

end Steps

/-! ## Steps that are determined -/

/-- A state determines the step that is taken from it. -/
def Functional {S L : Type} (step : S → L → S → Prop) : Prop :=
  ∀ ⦃s l m t u⦄, step s l t → step s m u → l = m ∧ t = u

namespace Functional

variable {S L : Type} {step : S → L → S → Prop} {s t u : S} {ls ms : List L}

/-- Of two runs from one state, the one that is not longer is the beginning of the other. -/
theorem isPrefix (hstep : Functional step) (h : Steps step s ls t) (h' : Steps step s ms u)
    (hle : ls.length ≤ ms.length) : ls <+: ms := by
  induction h generalizing ms with
  | refl => exact List.nil_prefix
  | head hl _ ih =>
      cases h' with
      | refl => simp at hle
      | head hm hrest =>
          obtain ⟨rfl, rfl⟩ := hstep hl hm
          exact List.cons_prefix_cons.mpr ⟨rfl, ih hrest (by simpa using hle)⟩

/-- Two runs of one length from one state are the same. -/
theorem unique (hstep : Functional step) (h : Steps step s ls t) (h' : Steps step s ms u)
    (hlength : ls.length = ms.length) : ls = ms ∧ t = u := by
  induction h generalizing ms with
  | refl =>
      cases h' with
      | refl => exact ⟨rfl, rfl⟩
      | head => simp at hlength
  | head hl _ ih =>
      cases h' with
      | refl => simp at hlength
      | head hm hrest =>
          obtain ⟨rfl, rfl⟩ := hstep hl hm
          obtain ⟨rfl, rfl⟩ := ih hrest (by simpa using hlength)
          exact ⟨rfl, rfl⟩

end Functional
end LoadMonitor
