import LoadMonitor.Proofs.Dashboard.Course
import LoadMonitor.Proofs.Rehearsal.Output

/-!
# Ticks that are played

A tick comes to its end within a fixed number of steps. Before a screen that accepts everything,
what it shows is decided by the answers of the service alone, and its result by the flush.
-/

namespace LoadMonitor

/-! ## The end of a tick -/

/-- More lines a frame does not have. -/
def Frame.maxHeight : Nat := 24 + maxAlerts

theorem Frame.length_pieces_le (s : Snapshot) : (pieces s).length ≤ maxHeight := by
  have halerts : (alertLines s.alerts).length ≤ maxAlerts := by
    unfold alertLines
    split
    case isTrue => decide
    case isFalse =>
      rw [List.length_map, List.length_take]
      exact Nat.min_le_left _ _
  simp only [pieces, lines, List.length_map, List.length_append, List.length_cons, List.length_nil,
    maxHeight]
  omega

namespace Tick

/-- More steps a tick does not take from where it stands. -/
def left : Tick → Nat
  | clearing => Frame.maxHeight + 5
  | askingHealth => Frame.maxHeight + 4
  | askingMetrics _ => Frame.maxHeight + 3
  | askingAlerts _ _ => Frame.maxHeight + 2
  | drawing (.pending _ rest) => rest.length + 2
  | drawing (.finished _) => 0
  | flushing => 1
  | finished _ => 0

/-- The number of steps that is enough for any tick. -/
def patience : Nat := clearing.left

theorem left_drawn_start (texts : List String) :
    (drawn (.start texts)).left = texts.length + 1 := by
  cases texts <;> rfl

theorem left_display_failurePieces (f : Failure) :
    (display (failurePieces f)).left < Frame.maxHeight + 2 := by
  have hlength : (failurePieces f).length ≤ 1 := by
    unfold failurePieces
    split <;> simp
  rw [display, left_drawn_start]
  unfold Frame.maxHeight
  omega

theorem left_display_pieces (s : Snapshot) :
    (display (Frame.pieces s)).left < Frame.maxHeight + 2 := by
  have hlength := Frame.length_pieces_le s
  rw [display, left_drawn_start]
  omega

/-- Every step brings a tick closer to its end, whatever it is answered. -/
theorem left_lt {s t : Tick} {e : Effect Tick} {event : Event} (heffect : s.effect = some e)
    (htakes : e.Takes event t) : t.left < s.left := by
  have hfailure := left_display_failurePieces
  cases s with
  | clearing =>
      cases heffect; cases htakes with
      | write result => cases result <;> simp [left]
  | askingHealth =>
      cases heffect; cases htakes with
      | health answer =>
          cases answer with
          | ok health => simp [left]
          | error f => exact Nat.lt_trans (hfailure f) (by simp [left])
  | askingMetrics health =>
      cases heffect; cases htakes with
      | metrics answer =>
          cases answer with
          | ok metrics => simp [left]
          | error f => exact Nat.lt_trans (hfailure f) (by simp [left])
  | askingAlerts health metrics =>
      cases heffect; cases htakes with
      | alerts answer =>
          cases answer with
          -- Here the height of a frame has to be bounded.
          | ok alerts => exact left_display_pieces _
          | error f => exact hfailure f
  | drawing writing =>
      cases writing with
      | finished result => cases heffect
      | pending text rest =>
          cases heffect; cases htakes with
          | write result =>
              cases result with
              | ok _ =>
                  have hleft := left_drawn_start rest
                  simp only [left] at hleft ⊢
                  omega
              | error _ => simp [left, drawn]
  | flushing =>
      cases heffect; cases htakes with
      | flush result => simp [left]
  | finished result => cases heffect

variable {ω : Type} [Service ω] {steps : Nat}

/-- A tick that is played comes to its end, with one of the courses of a tick. -/
theorem exists_course_play (hsteps : patience ≤ steps) (w : Rehearsal ω) :
    ∃ result, (w.play effect steps .clearing).1 = .finished result ∧
      Course (w.trace effect steps .clearing) result := by
  have hover : effect (w.play effect steps .clearing).1 = none :=
    Rehearsal.play_ends (fun _ _ _ _ => left_lt) hsteps w
  have hreached : (w.play effect steps .clearing).1.Reached (w.trace effect steps .clearing) := by
    have hstart : Reached [] clearing := rfl
    refine Rehearsal.play_invariant (P := fun events tick _ => Reached events tick) ?_ hstart steps
    intro past tick e v hpast heffect
    exact hpast.step heffect (v.perform_takes e)
  -- Of the places where no step is left, only the end of a tick can be reached.
  revert hover hreached
  generalize (w.play effect steps .clearing).1 = tick
  intro hover hreached
  cases tick with
  | finished result => exact ⟨result, rfl, hreached⟩
  | drawing writing =>
      cases writing with
      | finished result => exact hreached.elim
      | pending text rest => cases hover
  | _ => cases hover

end Tick

/-! ## Ticks before a screen without a limit -/

/-- The screen has taken the text, and has answered the flush as it always does. -/
def Event.Granted (flush : Except WriteError Unit) : Event → Prop
  | wrote _ result => result = .ok ()
  | flushed result => result = flush
  | _ => True

namespace Rehearsal

variable {ω σ : Type} [Service ω] {w : Rehearsal ω}

theorem granted_event (h : w.screen.limit = none) (e : Effect σ) :
    (w.event e).Granted w.screen.flush.1 := by
  cases e with
  | write text next =>
      have hroom := ScriptedScreen.room_of_none h text.toUTF8.size
      rw [event, write_fst, ScriptedScreen.write_fitting hroom]
      rfl
  | flush next => rfl
  | _ => trivial

/-- A screen that accepts everything has granted all events of a play. -/
theorem granted_trace (h : w.screen.limit = none) (effect : Thread σ) (steps : Nat) (s : σ) :
    ∀ event ∈ w.trace effect steps s, event.Granted w.screen.flush.1 := by
  refine (play_invariant (P := fun events _ v => v.screen.limit = none ∧
    v.screen.flush.1 = w.screen.flush.1 ∧ ∀ event ∈ events, event.Granted w.screen.flush.1)
    ?_ ⟨h, rfl, nofun⟩ steps).2.2
  rintro past s e v ⟨hlimit, hflush, hpast⟩ _
  have hkept : (v.perform e).2.screen.flush.1 = v.screen.flush.1 := by
    simp only [ScriptedScreen.flush, flushFailure_perform]
  refine ⟨(limit_perform v e).trans hlimit, hkept.trans hflush, ?_⟩
  rw [List.forall_mem_append, List.forall_mem_singleton]
  exact ⟨hpast, hflush ▸ granted_event hlimit e⟩

end Rehearsal

namespace Tick

variable {ω : Type} [Service ω] {steps : Nat}

/-- What a tick comes to before a screen that accepts everything. -/
theorem exists_whole_play (hsteps : patience ≤ steps) {w : Rehearsal ω}
    (hlimit : w.screen.limit = none) :
    ∃ reads answer texts, Fetch reads answer ∧ Shows answer texts ∧
      w.trace effect steps .clearing = .wrote Frame.clearScreen (.ok ()) :: reads ++
        Event.accepted texts ++ [.flushed w.screen.flush.1] ∧
      (w.play effect steps .clearing).1 = .finished w.screen.flush.1 := by
  obtain ⟨result, hfinished, hcourse⟩ := exists_course_play hsteps w
  have hgranted := Rehearsal.granted_trace hlimit effect steps .clearing
  revert hcourse hgranted
  generalize w.trace effect steps .clearing = events
  intro hcourse hgranted
  -- Nothing is refused, so the tick takes the one course on which nothing is.
  cases hcourse with
  | unwiped e => exact absurd (hgranted _ List.mem_cons_self) (by nofun)
  | refused e hfetch hshows =>
      exact absurd (hgranted _ (List.mem_append_right _ List.mem_cons_self)) (by nofun)
  | whole result hfetch hshows =>
      obtain rfl : result = _ := hgranted _ (List.mem_append_right _ List.mem_cons_self)
      exact ⟨_, _, _, hfetch, hshows, rfl, hfinished⟩

end Tick
end LoadMonitor
