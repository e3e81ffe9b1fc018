import LoadMonitor.Proofs.Rehearsal.Trace

/-!
# What a rehearsal leaves on the screen

Only texts that are written change what a screen holds, and they are only added to it. A screen
without a limit holds the texts of all events of a play, one after the other.
-/

namespace LoadMonitor

/-! ## Beginnings of byte strings -/

/-- Beginnings that take in the same number of bytes are the same. -/
theorem extract_congr {bytes : ByteArray} {m n : Nat}
    (h : min m bytes.size = min n bytes.size) : bytes.extract 0 m = bytes.extract 0 n := by
  apply ByteArray.ext
  rw [ByteArray.data_extract, ByteArray.data_extract]
  exact Array.extract_eq_extract_right.mpr h

theorem extract_of_size_le {bytes : ByteArray} {n : Nat} (h : bytes.size ≤ n) :
    bytes.extract 0 n = bytes := by
  rw [extract_congr (n := bytes.size) (by omega), ByteArray.extract_zero_size]

/-- What follows has no bearing on a beginning that is there already. -/
theorem extract_append_of_le_size {bytes more : ByteArray} {n : Nat} (h : n ≤ bytes.size) :
    (bytes ++ more).extract 0 n = bytes.extract 0 n := by
  rw [ByteArray.extract_append, Nat.sub_eq_zero_of_le h, Nat.zero_sub, ByteArray.extract_same,
    ByteArray.append_empty]

theorem extract_append_of_size_le {bytes more : ByteArray} {n : Nat} (h : bytes.size ≤ n) :
    (bytes ++ more).extract 0 n = bytes ++ more.extract 0 (n - bytes.size) := by
  rw [ByteArray.extract_append, extract_of_size_le h, Nat.zero_sub]

/-! ## Screens -/

namespace ScriptedScreen

variable {screen : ScriptedScreen} {bytes : ByteArray} {limit : Nat}

theorem room_of_none (h : screen.limit = none) (n : Nat) : screen.room n = n := by
  simp only [room, h]

theorem room_eq_iff (h : screen.limit = some limit) (hsize : screen.accepted.size ≤ limit)
    (n : Nat) : screen.room n = n ↔ screen.accepted.size + n ≤ limit := by
  simp only [room, h]
  omega

/-- The bytes that fit are accepted, and nothing else happens. -/
theorem write_fitting (h : screen.room bytes.size = bytes.size) :
    screen.write bytes = (.ok (), false, { screen with accepted := screen.accepted ++ bytes }) := by
  unfold write
  rw [h, if_pos rfl, ByteArray.extract_zero_size]

theorem write_excess (h : screen.room bytes.size ≠ bytes.size) :
    (screen.write bytes).1 = .error screen.refusal := by
  unfold write
  rw [if_neg h]

/-- In all, a screen accepts the beginning of what is written to it. -/
theorem accepted_write (h : screen.limit = some limit) (hsize : screen.accepted.size ≤ limit)
    (bytes : ByteArray) :
    (screen.write bytes).2.2.accepted = (screen.accepted ++ bytes).extract 0 limit := by
  have hroom : bytes.extract 0 (screen.room bytes.size) =
      bytes.extract 0 (limit - screen.accepted.size) := by
    apply extract_congr
    simp only [room, h]
    omega
  rw [extract_append_of_size_le hsize, ← hroom]
  unfold write
  dsimp only
  split <;> rfl

/-- What is on the screen stays there. -/
theorem exists_accepted_write (screen : ScriptedScreen) (bytes : ByteArray) :
    ∃ more, (screen.write bytes).2.2.accepted = screen.accepted ++ more := by
  refine ⟨bytes.extract 0 (screen.room bytes.size), ?_⟩
  unfold write
  dsimp only
  split <;> rfl

/-! ### Settings -/

/-- The screen as it was before anything was written or flushed. -/
def cleared (screen : ScriptedScreen) : ScriptedScreen :=
  { screen with accepted := .empty, flushes := 0, refusals := 0 }

@[simp] theorem cleared_write (screen : ScriptedScreen) (bytes : ByteArray) :
    (screen.write bytes).2.2.cleared = screen.cleared := by
  unfold write
  dsimp only
  split <;> rfl

@[simp] theorem cleared_flush (screen : ScriptedScreen) :
    screen.flush.2.2.cleared = screen.cleared := rfl

end ScriptedScreen

/-! ## Texts -/

/-- The text that an event has put on the screen, if it was not refused. -/
def Event.text? : Event → Option String
  | wrote text (.ok _) => some text
  | printed text => some text
  | _ => none

/-- The texts of events, one after the other. -/
def Event.output (events : List Event) : String := String.join (events.filterMap text?)

theorem Event.output_append (es fs : List Event) :
    output (es ++ fs) = output es ++ output fs := by
  unfold output
  rw [List.filterMap_append, String.join_append]

/-! ## Steps -/

namespace Rehearsal

variable {ω σ : Type}

@[simp] theorem screen_stopIf (w : Rehearsal ω) (condition : Bool) :
    (w.stopIf condition).screen = w.screen := by
  unfold stopIf
  split <;> rfl

@[simp] theorem screen_call {α : Type} (w : Rehearsal ω) (f : RunState → ω → Served ω α) :
    (w.call f).2.screen = w.screen := by
  simp only [call, screen_stopIf]

@[simp] theorem screen_write (w : Rehearsal ω) (text : String) :
    (w.write text).2.screen = (w.screen.write text.toUTF8).2.2 := by
  simp only [write, screen_stopIf]

@[simp] theorem write_fst (w : Rehearsal ω) (text : String) :
    (w.write text).1 = (w.screen.write text.toUTF8).1 := rfl

@[simp] theorem screen_flush (w : Rehearsal ω) : w.flush.2.screen = w.screen.flush.2.2 := by
  simp only [flush, screen_stopIf]

variable [Service ω]

/-- Nothing that a thread does changes how the screen behaves. -/
theorem cleared_perform (w : Rehearsal ω) (e : Effect σ) :
    (w.perform e).2.screen.cleared = w.screen.cleared := by
  cases e <;> simp [perform, stop]

theorem limit_perform (w : Rehearsal ω) (e : Effect σ) :
    (w.perform e).2.screen.limit = w.screen.limit := by
  have hkept := congrArg ScriptedScreen.limit (cleared_perform w e)
  exact hkept

theorem refusal_perform (w : Rehearsal ω) (e : Effect σ) :
    (w.perform e).2.screen.refusal = w.screen.refusal := by
  have hkept := congrArg ScriptedScreen.refusal (cleared_perform w e)
  exact hkept

theorem flushFailure_perform (w : Rehearsal ω) (e : Effect σ) :
    (w.perform e).2.screen.flushFailure = w.screen.flushFailure := by
  have hkept := congrArg ScriptedScreen.flushFailure (cleared_perform w e)
  exact hkept

/-- What is on the screen stays there. -/
theorem exists_accepted_perform (w : Rehearsal ω) (e : Effect σ) :
    ∃ more, (w.perform e).2.screen.accepted = w.screen.accepted ++ more := by
  have hnone : ∃ more, w.screen.accepted = w.screen.accepted ++ more :=
    ⟨.empty, ByteArray.append_empty.symm⟩
  cases e with
  | write text next =>
      obtain ⟨more, hmore⟩ := w.screen.exists_accepted_write text.toUTF8
      exact ⟨more, by simpa [perform] using hmore⟩
  | print text next =>
      obtain ⟨more, hmore⟩ := w.screen.exists_accepted_write text.toUTF8
      exact ⟨more, by simpa [perform] using hmore⟩
  | _ => simpa [perform, stop, ScriptedScreen.flush] using hnone

/-- A screen without a limit takes the text of every event. -/
theorem accepted_perform {w : Rehearsal ω} (h : w.screen.limit = none) (e : Effect σ) :
    (w.perform e).2.screen.accepted =
      w.screen.accepted ++ (Event.output [w.event e]).toUTF8 := by
  have hwrite : ∀ bytes : ByteArray, w.screen.write bytes =
      (.ok (), false, { w.screen with accepted := w.screen.accepted ++ bytes }) :=
    fun bytes => ScriptedScreen.write_fitting (ScriptedScreen.room_of_none h _)
  -- A step that puts no text on the screen leaves it as it is.
  have hquiet : ∀ event : Event, event.text? = none →
      w.screen.accepted = w.screen.accepted ++ (Event.output [event]).toUTF8 := by
    intro event hnone
    simp [Event.output, hnone]
  cases e with
  | write text next => simp [perform, event, Event.output, Event.text?, hwrite]
  | print text next => simp [perform, event, Event.output, Event.text?, hwrite]
  | flush next =>
      simpa [perform, event, ScriptedScreen.flush] using hquiet (.flushed w.flush.1) rfl
  | stop next => exact hquiet (.stopped w.stop.1) rfl
  | _ => simpa [perform] using hquiet _ rfl

/-! ## Plays -/

theorem limit_play (w : Rehearsal ω) (effect : Thread σ) (steps : Nat) (s : σ) :
    (w.play effect steps s).2.screen.limit = w.screen.limit := by
  refine play_invariant (P := fun _ _ v => v.screen.limit = w.screen.limit) ?_ rfl steps
  intro past s e v h _
  exact (limit_perform v e).trans h

theorem exists_accepted_play (w : Rehearsal ω) (effect : Thread σ) (steps : Nat) (s : σ) :
    ∃ more, (w.play effect steps s).2.screen.accepted = w.screen.accepted ++ more := by
  refine play_invariant (P := fun _ _ v => ∃ more, v.screen.accepted = w.screen.accepted ++ more)
    ?_ ⟨.empty, ByteArray.append_empty.symm⟩ steps
  rintro past s e v ⟨before, hbefore⟩ _
  obtain ⟨more, hmore⟩ := exists_accepted_perform v e
  exact ⟨before ++ more, by rw [hmore, hbefore, ByteArray.append_assoc]⟩

/-- A screen without a limit holds the texts of all events of a play. -/
theorem accepted_play {w : Rehearsal ω} (h : w.screen.limit = none) (effect : Thread σ)
    (steps : Nat) (s : σ) :
    (w.play effect steps s).2.screen.accepted =
      w.screen.accepted ++ (Event.output (w.trace effect steps s)).toUTF8 := by
  refine (play_invariant (P := fun events _ v => v.screen.limit = none ∧
    v.screen.accepted = w.screen.accepted ++ (Event.output events).toUTF8) ?_ ⟨h, ?_⟩ steps).2
  · rintro past s e v ⟨hlimit, hpast⟩ _
    refine ⟨(limit_perform v e).trans hlimit, ?_⟩
    rw [accepted_perform hlimit, hpast, Event.output_append, ByteArray.append_assoc]
    simp only [String.toUTF8_eq_toByteArray, String.toByteArray_append]
  · simp [Event.output]

end Rehearsal
end LoadMonitor
