import LoadMonitor.Proofs.Rehearsal.Output

/-!
# Screens with a limit

The same thread is played before a screen that accepts a limited number of bytes, and before one
that accepts them all. A thread that gives up at the first refusal leaves the beginning of the
same output, and does nothing that it does not do before the other screen as well.
-/

namespace LoadMonitor

/-- A question to the service. -/
def Event.isCall : Event → Bool
  | readHealth _ | readMetrics _ | readAlerts _ => true
  | _ => false

/-- The questions among events, with their answers. -/
def Event.calls (events : List Event) : List Event := events.filter isCall

theorem Event.calls_cons (event : Event) (events : List Event) :
    calls (event :: events) = calls [event] ++ calls events :=
  List.filter_append [event] events

/-- A thread that ends as soon as the screen refuses a text, in a state that tells the error. It
prints nothing, as a refusal could not be told from what is printed. -/
structure GivesUp {σ : Type} (effect : Thread σ) (failed : WriteError → σ) : Prop where
  refused {s : σ} {text : String} {next : Except WriteError Unit → σ} :
    effect s = some (.write text next) → ∀ e, next (.error e) = failed e
  halts (e : WriteError) : effect (failed e) = none
  prints {s : σ} {text : String} {next : σ} : effect s ≠ some (.print text next)

namespace Rehearsal

variable {ω σ : Type} {w v : Rehearsal ω} {limit : Nat}

/-- The same world with a screen that accepts everything. -/
def unlimited (w : Rehearsal ω) : Rehearsal ω := { w with screen := { w.screen with limit := none } }

/-- How a world whose screen has a limit stands to one whose screen has none. -/
inductive Truncated (limit : Nat) : Rehearsal ω → Rehearsal ω → Prop where
  /-- Nothing has been refused, and the limit is all that differs. -/
  | same {w : Rehearsal ω} : w.screen.limit = some limit → w.screen.accepted.size ≤ limit →
      Truncated limit w w.unlimited
  /-- The screen is full, and holds the beginning of what the other one holds. -/
  | full {w v : Rehearsal ω} : w.screen.limit = some limit → v.screen.limit = none →
      limit < v.screen.accepted.size →
      w.screen.accepted = v.screen.accepted.extract 0 limit → Truncated limit w v

namespace Truncated

theorem accepted (h : Truncated limit w v) :
    w.screen.accepted = v.screen.accepted.extract 0 limit := by
  cases h with
  | same _ hsize => exact (extract_of_size_le hsize).symm
  | full _ _ _ hbeginning => exact hbeginning

theorem limit_eq (h : Truncated limit w v) : w.screen.limit = some limit := by
  cases h with
  | same hlimit _ => exact hlimit
  | full hlimit _ _ _ => exact hlimit

theorem limit_eq_none (h : Truncated limit w v) : v.screen.limit = none := by
  cases h with
  | same _ _ => rfl
  | full _ hnone _ _ => exact hnone

end Truncated

/-! ## Steps -/

theorem unlimited_stopIf (w : Rehearsal ω) (condition : Bool) :
    w.unlimited.stopIf condition = (w.stopIf condition).unlimited := by
  unfold stopIf
  split <;> rfl

theorem unlimited_call {α : Type} (w : Rehearsal ω) (f : RunState → ω → Served ω α) :
    w.unlimited.call f = ((w.call f).1, (w.call f).2.unlimited) := by
  have hstop := unlimited_stopIf { w with service := (f w.run w.service).service }
    (f w.run w.service).stops
  exact Prod.ext rfl
    (congrArg (fun v : Rehearsal ω => { v with log := v.log ++ (f w.run w.service).log }) hstop)

theorem unlimited_flush (w : Rehearsal ω) :
    w.unlimited.flush = (w.flush.1, w.flush.2.unlimited) :=
  Prod.ext rfl (unlimited_stopIf { w with screen := w.screen.flush.2.2 } w.screen.flush.2.1)

theorem unlimited_write {text : String} (h : w.screen.room text.toUTF8.size = text.toUTF8.size) :
    w.unlimited.write text = ((w.write text).1, (w.write text).2.unlimited) := by
  have hunlimited : w.unlimited.screen.room text.toUTF8.size = text.toUTF8.size :=
    ScriptedScreen.room_of_none rfl _
  unfold write
  rw [ScriptedScreen.write_fitting h, ScriptedScreen.write_fitting hunlimited]
  rfl

variable [Service ω] {effect : Thread σ} {failed : WriteError → σ} {s : σ} {e : Effect σ}

/-- As long as everything fits on the screen, the limit makes no difference. -/
theorem perform_unlimited
    (hwrite : ∀ text next, e = .write text next →
      w.screen.room text.toUTF8.size = text.toUTF8.size)
    (hprint : ∀ text next, e ≠ .print text next) :
    w.unlimited.perform e = ((w.perform e).1, (w.perform e).2.unlimited) ∧
      w.unlimited.event e = w.event e := by
  cases e with
  | write text next =>
      simp only [perform, event, unlimited_write (hwrite text next rfl), and_self]
  | print text next => exact absurd rfl (hprint text next)
  | flush next => simp only [perform, event, unlimited_flush, and_self]
  | checkLive next => simp only [perform, event, unlimited_call, and_self]
  | health next => simp only [perform, event, unlimited_call, and_self]
  | metrics next => simp only [perform, event, unlimited_call, and_self]
  | alerts next => simp only [perform, event, unlimited_call, and_self]
  | submit submission next => simp only [perform, event, unlimited_call, and_self]
  | _ => exact ⟨rfl, rfl⟩

/-- The screen never holds more than its limit. -/
theorem size_perform (hlimit : w.screen.limit = some limit)
    (hsize : w.screen.accepted.size ≤ limit) (e : Effect σ) :
    (w.perform e).2.screen.accepted.size ≤ limit := by
  have hwrite : ∀ bytes, (w.screen.write bytes).2.2.accepted.size ≤ limit := by
    intro bytes
    rw [ScriptedScreen.accepted_write hlimit hsize, ByteArray.size_extract]
    omega
  cases e with
  | write text next => simpa [perform] using hwrite text.toUTF8
  | print text next => simpa [perform] using hwrite text.toUTF8
  | _ => simpa [perform, stop, ScriptedScreen.flush] using hsize

/-- A text for which there is no room ends a thread that gives up, while it is written to the end
in the other world. -/
theorem perform_excess (h : GivesUp effect failed) (hlimit : w.screen.limit = some limit)
    (hsize : w.screen.accepted.size ≤ limit) {text : String}
    {next : Except WriteError Unit → σ} (heffect : effect s = some (.write text next))
    (hexcess : w.screen.room text.toUTF8.size ≠ text.toUTF8.size) :
    (w.perform (.write text next)).1 = failed w.screen.refusal ∧
    Truncated limit (w.perform (.write text next)).2
      (w.unlimited.perform (.write text next)).2 ∧
    limit < (w.unlimited.perform (.write text next)).2.screen.accepted.size := by
  have hroom := (not_congr (ScriptedScreen.room_eq_iff hlimit hsize _)).mp hexcess
  have hwhole : (w.unlimited.perform (.write text next)).2.screen.accepted =
      w.screen.accepted ++ text.toUTF8 := by
    have hroom : w.unlimited.screen.room text.toUTF8.size = text.toUTF8.size :=
      ScriptedScreen.room_of_none rfl _
    simp only [perform, screen_write, ScriptedScreen.write_fitting hroom]
    rfl
  have hexceeds : limit < (w.unlimited.perform (.write text next)).2.screen.accepted.size := by
    rw [hwhole, ByteArray.size_append]
    omega
  refine ⟨?_, .full ?_ ?_ hexceeds ?_, hexceeds⟩
  · simp only [perform, write_fst, ScriptedScreen.write_excess hexcess]
    exact h.refused heffect w.screen.refusal
  · exact (limit_perform w _).trans hlimit
  · exact limit_perform w.unlimited _
  · rw [hwhole, ← ScriptedScreen.accepted_write hlimit hsize]
    simp only [perform, screen_write]

/-! ## Plays -/

/-- A world whose screen is full stays behind when the other one goes on. -/
theorem Truncated.full_play (h : Truncated limit w v) (hexceeds : limit < v.screen.accepted.size)
    (effect : Thread σ) (steps : Nat) (s : σ) :
    limit < (v.play effect steps s).2.screen.accepted.size ∧
      Truncated limit w (v.play effect steps s).2 := by
  obtain ⟨more, hmore⟩ := exists_accepted_play v effect steps s
  have hlonger : limit < (v.play effect steps s).2.screen.accepted.size := by
    rw [hmore, ByteArray.size_append]
    omega
  refine ⟨hlonger, .full h.limit_eq ?_ hlonger ?_⟩
  · exact (limit_play v effect steps s).trans h.limit_eq_none
  · rw [hmore, extract_append_of_le_size (Nat.le_of_lt hexceeds), h.accepted]

/-- What a play comes to before a limited screen, told by the same play before one without a
limit: everything is the same as long as the output fits, and otherwise the thread has given up
with the beginning of the output and of the questions. -/
theorem play_limited (h : GivesUp effect failed) (hlimit : w.screen.limit = some limit)
    (hsize : w.screen.accepted.size ≤ limit) (steps : Nat) (s : σ) :
    let cut := w.play effect steps s
    let whole := w.unlimited.play effect steps s
    let calls := Event.calls (w.trace effect steps s)
    let wholeCalls := Event.calls (w.unlimited.trace effect steps s)
    Truncated limit cut.2 whole.2 ∧ calls <+: wholeCalls ∧
    (whole.2.screen.accepted.size ≤ limit → calls = wholeCalls) ∧
    cut.1 = if whole.2.screen.accepted.size ≤ limit then whole.1 else failed w.screen.refusal := by
  induction steps generalizing w s with
  | zero => exact ⟨.same hlimit hsize, List.prefix_refl _, fun _ => rfl, (if_pos hsize).symm⟩
  | succ steps ih =>
      cases heffect : effect s with
      | none =>
          simp only [play_over heffect, trace_over heffect]
          exact ⟨.same hlimit hsize, List.prefix_refl _, fun _ => trivial, (if_pos hsize).symm⟩
      | some e =>
          simp only [play_step heffect, trace_step heffect]
          by_cases hexcess : ∃ text next, e = .write text next ∧
              w.screen.room text.toUTF8.size ≠ text.toUTF8.size
          · -- The step is the first refusal, after which only the other world goes on.
            obtain ⟨text, next, rfl, hroom⟩ := hexcess
            obtain ⟨hgone, htruncated, hexceeds⟩ := perform_excess h hlimit hsize heffect hroom
            have hover : effect (w.perform (.write text next)).1 = none := by
              rw [hgone]
              exact h.halts _
            obtain ⟨hlonger, hbehind⟩ := htruncated.full_play hexceeds effect steps
              (w.unlimited.perform (.write text next)).1
            have hlarge := Nat.not_le_of_gt hlonger
            rw [play_over hover, trace_over hover, if_neg hlarge]
            exact ⟨hbehind, List.nil_prefix, fun hfits => absurd hfits hlarge, hgone⟩
          · -- The step is the same in both worlds, and so is everything that it leads to.
            have hfits : ∀ text next, e = .write text next →
                w.screen.room text.toUTF8.size = text.toUTF8.size :=
              fun text next he => Decidable.byContradiction fun hroom =>
                hexcess ⟨text, next, he, hroom⟩
            have hprint : ∀ text next, e ≠ .print text next := by
              rintro text next rfl
              exact h.prints heffect
            obtain ⟨hperform, hevent⟩ := perform_unlimited hfits hprint
            obtain ⟨htruncated, hprefix, hequal, hstate⟩ := ih
              ((limit_perform w e).trans hlimit) (size_perform hlimit hsize e) (w.perform e).1
            rw [refusal_perform] at hstate
            rw [hperform, hevent, Event.calls_cons _ ((w.perform e).2.trace effect steps _),
              Event.calls_cons _ ((w.perform e).2.unlimited.trace effect steps _)]
            refine ⟨htruncated, (List.prefix_append_right_inj _).mpr hprefix, ?_, hstate⟩
            intro hsmall
            rw [hequal hsmall]

end Rehearsal
end LoadMonitor
