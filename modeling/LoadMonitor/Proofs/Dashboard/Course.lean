import LoadMonitor.Proofs.Run.Kinds

/-!
# The course of the dashboard

What the dashboard does, told as the list of its events: ticks with a pause after each of them,
until a look at the flag or a pause finds the run stopped. A tick wipes the screen, asks its
questions and shows what it was told, and nothing that it is told can end more than the tick.
-/

namespace LoadMonitor

/-- Texts that the screen has accepted one after the other. -/
def Event.accepted (texts : List String) : List Event := texts.map fun text => .wrote text (.ok ())

/-! ## Ticks -/

namespace Tick

/-- The questions of a tick and what they have come to. Each is asked once, in their order, and
the first failure is the last answer. -/
inductive Fetch : List Event → Except Failure Snapshot → Prop where
  | health (f : Failure) : Fetch [.readHealth (.error f)] (.error f)
  | metrics (health : HealthSnapshot) (f : Failure) :
      Fetch [.readHealth (.ok health), .readMetrics (.error f)] (.error f)
  | alerts (health : HealthSnapshot) (metrics : List MetricSnapshot) (f : Failure) :
      Fetch [.readHealth (.ok health), .readMetrics (.ok metrics), .readAlerts (.error f)]
        (.error f)
  | complete (health : HealthSnapshot) (metrics : List MetricSnapshot)
      (alerts : List AlertSnapshot) :
      Fetch [.readHealth (.ok health), .readMetrics (.ok metrics), .readAlerts (.ok alerts)]
        (.ok ⟨health, metrics, alerts⟩)

/-- What is shown for the answers to the questions of a tick: a frame, the one line of an error,
or nothing if the run was stopped. -/
inductive Shows : Except Failure Snapshot → List String → Prop where
  | frame (s : Snapshot) : Shows (.ok s) (Frame.pieces s)
  | line (f : Failure) : (∀ headlines, f ≠ .within headlines .stopped) →
      Shows (.error f) ["Error updating dashboard: " ++ ": ".intercalate f.chain ++ "\n"]
  | nothing (headlines : List String) : Shows (.error (.within headlines .stopped)) []

/-- All events of a tick, and whether the screen has taken everything. -/
inductive Course : List Event → Except WriteError Unit → Prop where
  /-- The screen is not wiped, and no question is asked. -/
  | unwiped (e : WriteError) : Course [.wrote Frame.clearScreen (.error e)] (.error e)
  /-- The screen refuses one of the texts, and nothing is done after it. -/
  | refused {reads : List Event} {answer : Except Failure Snapshot} {sent rest : List String}
      {text : String} (e : WriteError) : Fetch reads answer → Shows answer (sent ++ text :: rest) →
      Course (.wrote Frame.clearScreen (.ok ()) :: reads ++ Event.accepted sent ++
        [.wrote text (.error e)]) (.error e)
  /-- Everything is written and flushed. -/
  | whole {reads : List Event} {answer : Except Failure Snapshot} {texts : List String}
      (result : Except WriteError Unit) : Fetch reads answer → Shows answer texts →
      Course (.wrote Frame.clearScreen (.ok ()) :: reads ++ Event.accepted texts ++
        [.flushed result]) result

/-- The stop of the run is at the root of a failure exactly if there are only contexts around
it. -/
theorem isStopped_iff (f : Failure) :
    f.isStopped = true ↔ ∃ headlines, f = .within headlines .stopped := by
  constructor
  · intro h
    induction f with
    | stopped => exact ⟨[], rfl⟩
    | fault message => cases h
    | context headline cause ih =>
        obtain ⟨headlines, rfl⟩ := ih h
        exact ⟨headline :: headlines, rfl⟩
  · rintro ⟨headlines, rfl⟩
    induction headlines with
    | nil => rfl
    | cons headline headlines ih => exact ih

theorem shows_failurePieces (f : Failure) : Shows (.error f) (failurePieces f) := by
  unfold failurePieces
  split
  case isTrue h =>
    obtain ⟨headlines, rfl⟩ := (isStopped_iff f).mp h
    exact .nothing headlines
  case isFalse h =>
    refine .line f fun headlines heq => h ?_
    exact (isStopped_iff f).mpr ⟨headlines, heq⟩

/-- The events that lead to a position within a tick. -/
def Reached (events : List Event) : Tick → Prop
  | clearing => events = []
  | askingHealth => events = [.wrote Frame.clearScreen (.ok ())]
  | askingMetrics health => events = [.wrote Frame.clearScreen (.ok ()), .readHealth (.ok health)]
  | askingAlerts health metrics => events = [.wrote Frame.clearScreen (.ok ()),
    .readHealth (.ok health), .readMetrics (.ok metrics)]
  | drawing (.pending text rest) => ∃ reads answer sent, Fetch reads answer ∧
    Shows answer (sent ++ text :: rest) ∧
    events = .wrote Frame.clearScreen (.ok ()) :: reads ++ Event.accepted sent
  | drawing (.finished _) => False
  | flushing => ∃ reads answer texts, Fetch reads answer ∧ Shows answer texts ∧
    events = .wrote Frame.clearScreen (.ok ()) :: reads ++ Event.accepted texts
  | finished result => Course events result

namespace Reached

variable {reads events : List Event} {answer : Except Failure Snapshot}

/-- After some of the texts for the answers have been written. -/
theorem drawn (sent rest : List String) (hfetch : Fetch reads answer)
    (hshows : Shows answer (sent ++ rest)) :
    (drawn (.start rest)).Reached
      (.wrote Frame.clearScreen (.ok ()) :: reads ++ Event.accepted sent) := by
  cases rest with
  | nil => exact ⟨reads, answer, sent, hfetch, by rwa [List.append_nil] at hshows, rfl⟩
  | cons text rest => exact ⟨reads, answer, sent, hfetch, hshows, rfl⟩

/-- After the last answer. -/
theorem display {texts : List String} (hfetch : Fetch reads answer) (hshows : Shows answer texts) :
    (display texts).Reached (.wrote Frame.clearScreen (.ok ()) :: reads) := by
  have hdrawn := drawn [] texts hfetch hshows
  rwa [Event.accepted, List.map_nil, List.append_nil] at hdrawn

/-- Each step leads on to a position with one event more, whatever it is answered. -/
theorem step {s t : Tick} {e : Effect Tick} {event : Event} (h : s.Reached events)
    (heffect : s.effect = some e) (htakes : e.Takes event t) : t.Reached (events ++ [event]) := by
  cases s with
  | clearing =>
      obtain rfl := h
      cases heffect; cases htakes with
      | write result =>
          cases result with
          | ok _ => exact rfl
          | error error => exact .unwiped error
  | askingHealth =>
      obtain rfl := h
      cases heffect; cases htakes with
      | health answer =>
          cases answer with
          | ok health => exact rfl
          | error f => exact display (.health f) (shows_failurePieces f)
  | askingMetrics health =>
      obtain rfl := h
      cases heffect; cases htakes with
      | metrics answer =>
          cases answer with
          | ok metrics => exact rfl
          | error f => exact display (.metrics health f) (shows_failurePieces f)
  | askingAlerts health metrics =>
      obtain rfl := h
      cases heffect; cases htakes with
      | alerts answer =>
          cases answer with
          | ok alerts => exact display (.complete health metrics alerts) (.frame _)
          | error f => exact display (.alerts health metrics f) (shows_failurePieces f)
  | drawing writing =>
      cases writing with
      | finished result => exact h.elim
      | pending text rest =>
          obtain ⟨reads, answer, sent, hfetch, hshows, rfl⟩ := h
          cases heffect; cases htakes with
          | write result =>
              cases result with
              -- What the screen refuses ends the tick at once, without a flush.
              | error error => exact .refused error hfetch hshows
              | ok _ =>
                  have hnext := drawn (sent ++ [text]) rest hfetch (by simpa)
                  simpa [Event.accepted] using hnext
  | flushing =>
      obtain ⟨reads, answer, texts, hfetch, hshows, rfl⟩ := h
      cases heffect; cases htakes with
      | flush result => exact .whole result hfetch hshows
  | finished result => cases heffect

/-- A tick can be brought to its end from anywhere. -/
theorem complete {s : Tick} (h : s.Reached events) :
    ∃ rest result, Course (events ++ rest) result := by
  cases s with
  | clearing =>
      obtain rfl := h
      exact ⟨_, _, .unwiped .nothingAccepted⟩
  | askingHealth =>
      obtain rfl := h
      -- The quickest end of a tick is that a question is stopped and nothing is shown.
      exact ⟨[.readHealth (.error .stopped), .flushed (.ok ())], _,
        .whole _ (.health _) (.nothing [])⟩
  | askingMetrics health =>
      obtain rfl := h
      exact ⟨[.readMetrics (.error .stopped), .flushed (.ok ())], _,
        .whole _ (.metrics health _) (.nothing [])⟩
  | askingAlerts health metrics =>
      obtain rfl := h
      exact ⟨[.readAlerts (.error .stopped), .flushed (.ok ())], _,
        .whole _ (.alerts health metrics _) (.nothing [])⟩
  | drawing writing =>
      cases writing with
      | finished result => exact h.elim
      | pending text rest =>
          obtain ⟨reads, answer, sent, hfetch, hshows, rfl⟩ := h
          exact ⟨_, _, .refused .nothingAccepted hfetch hshows⟩
  | flushing =>
      obtain ⟨reads, answer, texts, hfetch, hshows, rfl⟩ := h
      exact ⟨_, _, .whole (.ok ()) hfetch hshows⟩
  | finished result => exact ⟨[], result, by rwa [List.append_nil]⟩

end Reached
end Tick

/-! ## Ticks in a row -/

namespace Dashboard

variable {refresh : Duration} {frames : Nat} {events tick : List Event}
  {result : Except WriteError Unit}

/-- What is logged about a tick: only that the screen has not taken everything. -/
def complaint : Except WriteError Unit → List Event
  | .ok _ => []
  | .error e => [.logged (drawFailed e)]

/-- A tick with the look at the flag before it and the pause after it. -/
def round (refresh : Duration) (tick : List Event) (result : Except WriteError Unit)
    (running : Bool) : List Event :=
  .looked true :: tick ++ complaint result ++ [.paused refresh running]

/-- The events of ticks with pauses after which the run is still active. -/
inductive Rounds (refresh : Duration) : Nat → List Event → Prop where
  | none : Rounds refresh 0 []
  | next {frames : Nat} {events tick : List Event} {result : Except WriteError Unit} :
      Rounds refresh frames events → Tick.Course tick result →
      Rounds refresh (frames + 1) (events ++ round refresh tick result true)

/-- All events of a dashboard that has come to its end, and the number of its ticks. The end is
that the flag is found cleared, by a look before a tick or by the pause after one. -/
inductive Over (refresh : Duration) : Nat → List Event → Prop where
  | refused {frames : Nat} {events : List Event} : Rounds refresh frames events →
      Over refresh frames (events ++ [.looked false, .logged (stopped frames)])
  | woken {frames : Nat} {events tick : List Event} {result : Except WriteError Unit} :
      Rounds refresh frames events → Tick.Course tick result →
      Over refresh (frames + 1)
        (events ++ round refresh tick result false ++ [.logged (stopped (frames + 1))])

/-- The events that lead to a position of the dashboard. -/
def Reached (refresh : Duration) (running : Bool) (events : List Event) : Dashboard → Prop
  | checking frames => Rounds refresh frames events
  | ticking frames tick => (∀ result, tick ≠ .finished result) ∧ ∃ front part,
    events = front ++ .looked true :: part ∧ Rounds refresh frames front ∧ tick.Reached part
  | complaining frames e => ∃ before front tick, frames = before + 1 ∧
    events = front ++ .looked true :: tick ∧ Rounds refresh before front ∧
    Tick.Course tick (.error e)
  | pausing frames => ∃ before front tick result, frames = before + 1 ∧
    events = front ++ .looked true :: tick ++ complaint result ∧ Rounds refresh before front ∧
    Tick.Course tick result
  | leaving frames => running = false ∧
    Over refresh frames (events ++ [.logged (stopped frames)])
  | finished frames => running = false ∧ Over refresh frames events

namespace Reached

/-- Within a tick, or right after it. -/
theorem ticked {running : Bool} {front part : List Event} {tick : Tick}
    (hfront : Rounds refresh frames front) (hpart : tick.Reached part) :
    (ticked frames tick).Reached refresh running (front ++ .looked true :: part) := by
  cases tick with
  | finished result =>
      cases result with
      | ok _ => exact ⟨frames, front, part, _, rfl, (List.append_nil _).symm, hfront, hpart⟩
      | error e => exact ⟨frames, front, part, rfl, rfl, hfront, hpart⟩
  | _ => exact ⟨nofun, front, part, rfl, hfront, hpart⟩

/-- The run may be stopped at any position. -/
theorem stop {running : Bool} {s : Dashboard} (h : s.Reached refresh running events) :
    s.Reached refresh false events := by
  cases s with
  | leaving frames => exact ⟨rfl, h.2⟩
  | finished frames => exact ⟨rfl, h.2⟩
  | _ => exact h

/-- Each step leads on to a position with one event more, whatever it is answered. -/
theorem step {run : RunState} {s t : Dashboard} {e : Effect Dashboard} {event : Event}
    (h : s.Reached refresh run.running events) (heffect : s.effect refresh = some e)
    (htakes : e.Takes event t) (hagrees : event.Agrees run) :
    t.Reached refresh run.running (events ++ [event]) := by
  cases s with
  | checking frames =>
      cases heffect; cases htakes with
      | isRunning running =>
          cases running with
          | true => exact ⟨nofun, events, [], rfl, h, rfl⟩
          | false =>
              refine ⟨hagrees.symm, ?_⟩
              rw [List.append_assoc]
              exact .refused h
  | ticking frames tick =>
      obtain ⟨-, front, part, rfl, hfront, hpart⟩ := h
      obtain ⟨inner, next, hinner, hnext, rfl⟩ := Thread.takes_map heffect htakes
      rw [List.append_assoc]
      exact ticked hfront (hpart.step hinner hnext)
  | complaining frames e =>
      obtain ⟨before, front, tick, rfl, rfl, hfront, htick⟩ := h
      cases heffect; cases htakes with
      | log => exact ⟨before, front, tick, _, rfl, rfl, hfront, htick⟩
  | pausing frames =>
      obtain ⟨before, front, tick, result, rfl, rfl, hfront, htick⟩ := h
      cases heffect; cases htakes with
      | pause running =>
          have hround : front ++ .looked true :: tick ++ complaint result ++
              [.paused refresh running] = front ++ round refresh tick result running := by
            simp [round]
          rw [hround]
          -- The pause tells whether another look at the flag follows.
          cases running with
          | true => exact .next hfront htick
          | false => exact ⟨hagrees.symm, .woken hfront htick⟩
  | leaving frames =>
      cases heffect; cases htakes with
      | log => exact h
  | finished frames => cases heffect

end Reached
end Dashboard
end LoadMonitor
