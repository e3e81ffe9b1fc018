import LoadMonitor.Run.Effect
import LoadMonitor.Run.State

/-!
# Events

An event is what others see of one step of a thread: what it did and which answer it was
given. The services, the screen and the clock may answer anything; only the flag of the run
decides its own answers.
-/

namespace LoadMonitor

/-- What others see of one step of a thread. -/
inductive Event where
  | looked (running : Bool)
  | stopped (first : Bool)
  | paused (delay : Duration) (running : Bool)
  | timed (now : Duration)
  | checkedLive (answer : Except PrecheckError Unit)
  | readHealth (answer : Except Failure HealthSnapshot)
  | readMetrics (answer : Except Failure (List MetricSnapshot))
  | readAlerts (answer : Except Failure (List AlertSnapshot))
  | submitted (submission : Submission)
  | wrote (text : String) (result : Except WriteError Unit)
  | flushed (result : Except WriteError Unit)
  | printed (text : String)
  | lockedScreen
  | unlockedScreen
  | launched
  | joined (frames : Nat)
  | logged (line : Diagnostic)

/-- The step can be seen as the event, after which the thread stands in the state. -/
inductive Effect.Takes {σ : Type} : Effect σ → Event → σ → Prop where
  | isRunning {next} (running) : Takes (.isRunning next) (.looked running) (next running)
  | stop {next} (first) : Takes (.stop next) (.stopped first) (next first)
  | pause {delay next} (running) :
      Takes (.pause delay next) (.paused delay running) (next running)
  | clock {next} (now) : Takes (.clock next) (.timed now) (next now)
  | checkLive {next} (answer) : Takes (.checkLive next) (.checkedLive answer) (next answer)
  | health {next} (answer) : Takes (.health next) (.readHealth answer) (next answer)
  | metrics {next} (answer) : Takes (.metrics next) (.readMetrics answer) (next answer)
  | alerts {next} (answer) : Takes (.alerts next) (.readAlerts answer) (next answer)
  | submit {submission next} : Takes (.submit submission next) (.submitted submission) next
  | write {text next} (result) : Takes (.write text next) (.wrote text result) (next result)
  | flush {next} (result) : Takes (.flush next) (.flushed result) (next result)
  | print {text next} : Takes (.print text next) (.printed text) next
  | lockScreen {next} : Takes (.lockScreen next) .lockedScreen next
  | unlockScreen {next} : Takes (.unlockScreen next) .unlockedScreen next
  | launch {next} : Takes (.launch next) .launched next
  | join {next} (frames) : Takes (.join next) (.joined frames) (next frames)
  | log {line next} : Takes (.log line next) (.logged line) next

/-- A step that is seen through a function takes the events of the step itself. -/
theorem Effect.takes_map {σ τ : Type} {f : σ → τ} {e : Effect σ} {event : Event} {t : τ} :
    (e.map f).Takes event t ↔ ∃ s, e.Takes event s ∧ f s = t := by
  constructor
  · intro h
    cases e <;> simp only [Effect.map] at h <;> cases h <;> exact ⟨_, by constructor, rfl⟩
  · rintro ⟨s, h, rfl⟩
    cases h <;> simp only [Effect.map] <;> constructor

/-- The step of a thread that is seen through a function is one of the thread itself. -/
theorem Thread.takes_map {σ τ : Type} {effect : Thread σ} {f : σ → τ} {s : σ} {e : Effect τ}
    {event : Event} {t : τ} (heffect : (effect s).map (·.map f) = some e)
    (htakes : e.Takes event t) :
    ∃ inner s', effect s = some inner ∧ inner.Takes event s' ∧ f s' = t := by
  obtain ⟨inner, hinner, rfl⟩ := Option.map_eq_some_iff.mp heffect
  obtain ⟨s', hstep, ht⟩ := Effect.takes_map.mp htakes
  exact ⟨inner, s', hinner, hstep, ht⟩

namespace Event

/-! ## The flag -/

/-- The event fits the state of the run in which it happens. -/
def Agrees (run : RunState) : Event → Prop
  | looked running => running = run.running
  | paused _ running => running = run.running
  | stopped first => first = run.stop.1
  | _ => True

/-- The state of the run after the event. -/
def move (run : RunState) : Event → RunState
  | stopped _ => run.stop.2
  | _ => run

/-- A run that is stopped stays so. -/
theorem running_move {run : RunState} (event : Event) (h : run.running = false) :
    (event.move run).running = false := by
  cases event with
  | stopped first => exact RunState.running_stop run
  | _ => exact h

/-! ## What is sent and shown -/

def submission? : Event → Option Submission
  | submitted submission => some submission
  | _ => none

def printed? : Event → Option String
  | printed text => some text
  | _ => none

/-- The submissions among events, in their order. -/
def submissions (events : List Event) : List Submission := events.filterMap submission?

/-- The texts that are printed in events, in their order. -/
def printings (events : List Event) : List String := events.filterMap printed?

@[simp] theorem submissions_append (es fs : List Event) :
    submissions (es ++ fs) = submissions es ++ submissions fs :=
  List.filterMap_append

@[simp] theorem printings_append (es fs : List Event) :
    printings (es ++ fs) = printings es ++ printings fs :=
  List.filterMap_append

@[simp] theorem submissions_map_submitted (ss : List Submission) :
    submissions (ss.map submitted) = ss := by
  induction ss with
  | nil => rfl
  | cons s ss ih =>
      show s :: submissions (ss.map submitted) = s :: ss
      rw [ih]

@[simp] theorem printings_map_submitted (ss : List Submission) :
    printings (ss.map submitted) = [] := by
  induction ss with
  | nil => rfl
  | cons s ss ih => exact ih

@[simp] theorem submissions_looked (events : List Event) (running : Bool) :
    submissions (events ++ [looked running]) = submissions events := by
  rw [submissions_append]
  exact List.append_nil _

@[simp] theorem printings_looked (events : List Event) (running : Bool) :
    printings (events ++ [looked running]) = printings events := by
  rw [printings_append]
  exact List.append_nil _

/-- Nothing is sent and nothing is printed. -/
def Silent (events : List Event) : Prop := submissions events = [] ∧ printings events = []

end Event
end LoadMonitor
