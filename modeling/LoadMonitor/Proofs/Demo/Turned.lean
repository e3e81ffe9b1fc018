import LoadMonitor.Proofs.Demo.Act
import LoadMonitor.Proofs.Run.Kinds

/-!
# Threads that are turned back

A main thread whose precheck has failed says so and returns. One that has passed it in a run
which is stopped by then goes through its plan without beginning a phase, and the dashboard that
it launches begins no tick. None of these steps is a call of the service, and each of them brings
the thread nearer to its end.
-/

namespace LoadMonitor

/-- The event is a call of the service. -/
def Event.IsCall : Event → Prop
  | checkedLive _ => True
  | readHealth _ => True
  | readMetrics _ => True
  | readAlerts _ => True
  | submitted _ => True
  | _ => False

/-- The outcome of a demo that is turned back at its precheck: by its failure, or by a stop that
has overtaken its success. -/
def turnedOutcome : Except PrecheckError Unit → DemoOutcome
  | .ok _ => .interrupted
  | .error error => error.demo

/-! ## The steps that are left -/

/-- The texts that are left to be written. -/
def Writing.left : Writing → Nat
  | pending _ rest => rest.length + 1
  | finished _ => 0

theorem Writing.left_start (texts : List String) : (start texts).left = texts.length := by
  cases texts <;> rfl

/-- The steps that are left to a dashboard that begins no tick. -/
def Dashboard.left : Dashboard → Nat
  | checking _ => 2
  | leaving _ => 1
  | _ => 0

namespace Demo

variable {ρ : Type}

/-- The steps that are left to a main thread that is turned back, and to the dashboard that it is
still going to launch. -/
def left : Demo ρ → Nat
  | excusing error => error.advice.length + 1
  | advising _ writing => writing.left
  | greeting _ => 13
  | spacing _ => 12
  -- The step itself, the two of the dashboard and those of the plan.
  | launching _ => 11
  | driving (.choosing ..) => 8
  | driving (.concluding _) => 7
  | locking _ => 6
  | parting _ (.stopping _) => 5
  | parting _ (.speaking _) => 4
  | unlocking _ _ => 3
  | joining _ => 2
  | closing _ _ => 1
  | _ => 0

theorem left_advised (error : PrecheckError) (writing : Writing) :
    (advised error writing : Demo ρ).left = writing.left := by
  cases writing with
  | pending text rest => rfl
  | finished result => cases result <;> rfl

/-- Where the main thread stands in a run that is stopped before any phase of the plan: it makes
no call, and only one outcome is left. -/
def Late : Demo ρ → Prop
  | greeting _ => True
  | spacing _ => True
  | launching _ => True
  | driving (.choosing ..) => True
  | driving (.concluding _) => True
  | locking outcome => outcome = .interrupted
  | parting outcome (.stopping _) => outcome = .interrupted
  | parting outcome (.speaking _) => outcome = .interrupted
  | unlocking outcome _ => outcome = .interrupted
  | joining outcome => outcome = .interrupted
  | closing outcome _ => outcome = .interrupted
  | _ => False

/-- A plan begins with a look at the flag. -/
theorem late_start (plan : LoadPlan) (source : ρ) : (driving (.start plan source)).Late := by
  cases plan <;> trivial

theorem left_start (plan : LoadPlan) (source : ρ) : (driving (.start plan source)).left ≤ 8 := by
  cases plan <;> simp [LoadDriver.start, LoadDriver.proceed, left]

/-- Where a main thread stands that is turned back. -/
def Turned (answer : Except PrecheckError Unit) (running : Bool) : Demo ρ → Prop
  | excusing error => answer = .error error
  | advising error (.pending _ _) => answer = .error error
  | finished result => ∀ outcome, result = .ok outcome → outcome = turnedOutcome answer
  | main => main.Late ∧ answer = .ok () ∧ running = false

namespace Turned

variable {answer : Except PrecheckError Unit} {running : Bool} {s t : Demo ρ}

theorem advised {error : PrecheckError} (writing : Writing) (h : answer = .error error) :
    (advised error writing : Demo ρ).Turned answer running := by
  subst h
  cases writing with
  | pending text rest => rfl
  | finished result =>
      cases result with
      | ok _ => rintro outcome ⟨⟩; rfl
      | error _ => nofun

/-- A stop changes nothing for a main thread that is turned back. -/
theorem stop (h : s.Turned answer running) : s.Turned answer false := by
  cases s with
  | excusing error => exact h
  | advising error writing =>
      cases writing with
      | pending text rest => exact h
      | finished result => exact ⟨h.1, h.2.1, rfl⟩
  | finished result => exact h
  | _ => exact ⟨h.1, h.2.1, rfl⟩

variable [RandomSource ρ] {config : DemoConfig} {patience : Nat} {event : Event}

/-- A main thread that is turned back makes no call, and it comes nearer to its return. -/
theorem act {run : RunState} (h : s.Turned answer run.running)
    (hact : Act config patience s event t) (hagrees : event.Agrees run) :
    t.Turned answer (event.move run).running ∧ ¬event.IsCall ∧ t.left < s.left ∧
      (event = .launched → t.left + 2 < s.left ∧ answer = .ok () ∧ run.running = false) := by
  cases hact with
  | pass => exact h.1.elim
  | fail => exact h.1.elim
  | @excuse error =>
      refine ⟨.advised _ h, id, ?_, nofun⟩
      rw [left_advised, Writing.left_start]
      exact Nat.lt_succ_self _
  | @advise error writing next e event heffect htakes =>
      cases writing with
      | pending text rest =>
          cases heffect; cases htakes with
          | write result =>
              refine ⟨.advised _ h, id, ?_, nofun⟩
              rw [left_advised]
              cases result with
              | ok _ =>
                  show (Writing.start rest).left < rest.length + 1
                  rw [Writing.left_start]
                  exact Nat.lt_succ_self _
              | error _ => exact Nat.succ_pos _
      | finished result => exact h.1.elim
  | greet => exact ⟨⟨trivial, h.2⟩, id, by simp [left], nofun⟩
  | space => exact ⟨⟨trivial, h.2⟩, id, by simp [left], nofun⟩
  | @launch source =>
      have hleft := left_start config.plan source
      refine ⟨⟨late_start config.plan source, h.2⟩, id, ?_, fun _ => ?_⟩
      · exact Nat.lt_of_le_of_lt hleft (by simp [left])
      · exact ⟨Nat.lt_of_le_of_lt (Nat.add_le_add_right hleft 2) (by simp [left]), h.2⟩
  | @drive driver next e event heffect htakes =>
      -- The plan has not submitted anything yet, and its next look finds the flag cleared.
      obtain ⟨hlate, hok, hrun⟩ := h
      cases driver with
      | choosing number phase rest source =>
          cases heffect; cases htakes with
          | isRunning running =>
              obtain rfl : running = false := Eq.trans hagrees hrun
              exact ⟨⟨trivial, hok, hrun⟩, id, by simp [left, driven], nofun⟩
      | concluding source =>
          cases heffect; cases htakes with
          | isRunning running =>
              obtain rfl : running = false := Eq.trans hagrees hrun
              exact ⟨⟨rfl, hok, hrun⟩, id, by simp [left, driven], nofun⟩
      | _ => exact hlate.elim
  | lock => exact ⟨h, id, by simp [left], nofun⟩
  | stop => exact ⟨⟨h.1, h.2.1, RunState.running_stop run⟩, id, by simp [left], nofun⟩
  | speak => exact ⟨h, id, by simp [left], nofun⟩
  | unlock => exact ⟨h, id, by simp [left], nofun⟩
  | leave => exact ⟨nofun, id, by simp [left], nofun⟩
  | join => exact ⟨h, id, by simp [left], nofun⟩
  | close =>
      obtain ⟨rfl, rfl, -⟩ := h
      refine ⟨?_, id, by simp [left], nofun⟩
      rintro outcome ⟨⟩
      rfl

end Turned

/-! ## What the main thread returns -/

/-- The main thread has passed its precheck, and will not blame the service. -/
def Passed : Demo ρ → Prop
  | prechecking _ => False
  | excusing _ => False
  | advising _ _ => False
  | finished result => result ≠ .ok .serviceUnavailable
  | _ => True

/-- The main thread returns because a text could not be written. -/
def Lost (error : WriteError) : Demo ρ → Prop
  | unlocking _ result => result = .error error
  | finished result => result = .error error
  | _ => False

theorem passed_driven (driver : LoadDriver ρ) : (driven driver).Passed := by
  cases driver <;> trivial

theorem not_lost_driven (driver : LoadDriver ρ) (error : WriteError) :
    ¬(driven driver).Lost error := by
  cases driver <;> exact id

section

variable [RandomSource ρ] {config : DemoConfig} {patience : Nat} {s t : Demo ρ} {event : Event}

theorem Passed.act (h : s.Passed) (hact : Act config patience s event t) : t.Passed := by
  cases hact with
  | pass => exact h.elim
  | fail => exact h.elim
  | excuse => exact h.elim
  | advise _ _ => exact h.elim
  | drive _ _ => exact passed_driven _
  | leave => nofun
  | @close outcome frames => cases outcome <;> nofun
  | _ => trivial

/-- Nothing but a write that fails leads to such a return. -/
theorem Act.lost {error : WriteError} (hact : Act config patience s event t)
    (h : t.Lost error) : s.Lost error ∨ ∃ text, event = .wrote text (.error error) := by
  cases hact with
  | @excuse error' => cases error' <;> exact h.elim
  | @advise error' writing next e event heffect htakes =>
      cases writing with
      | pending text rest =>
          cases heffect; cases htakes with
          | write result =>
              cases result with
              | ok _ => cases rest <;> cases h
              | error cause =>
                  cases h
                  exact .inr ⟨text, rfl⟩
      | finished result => cases heffect
  | drive _ _ => exact (not_lost_driven _ _ h).elim
  | @speak outcome words result =>
      obtain rfl := h
      exact .inr ⟨_, rfl⟩
  | @leave outcome cause =>
      cases h
      exact .inl rfl
  | close => cases h
  | _ => exact h.elim

end
end Demo

/-! ## The dashboard -/

/-- A dashboard that has not begun a tick. -/
def Dashboard.Idle : Dashboard → Prop
  | checking _ => True
  | leaving _ => True
  | finished _ => True
  | _ => False

/-- In a stopped run it begins none. -/
theorem Dashboard.Idle.step {refresh : Duration} {s t : Dashboard} {e : Effect Dashboard}
    {event : Event} {run : RunState} (h : s.Idle) (hrun : run.running = false)
    (heffect : s.effect refresh = some e) (htakes : e.Takes event t) (hagrees : event.Agrees run) :
    t.Idle ∧ ¬event.IsCall ∧ t.left < s.left := by
  cases s with
  | checking frames =>
      cases heffect; cases htakes with
      | isRunning running =>
          obtain rfl : running = false := Eq.trans hagrees hrun
          exact ⟨trivial, id, by simp [left]⟩
  | leaving frames =>
      cases heffect; cases htakes with
      | log => exact ⟨trivial, id, by simp [left]⟩
  | finished frames => cases heffect
  | _ => exact h.elim

end LoadMonitor
