import LoadMonitor.Client.Networked
import LoadMonitor.Proofs.Client.Refusal
import LoadMonitor.Proofs.Client.Wording
import LoadMonitor.Proofs.Dashboard.Showing

/-!
# Failed reads are shown on one line

The dashboard shows a failed read as one line, and the service decides much of what is said in it.
But it cannot leave the line: what is said holds no control, for any base address and for any
answers.
-/

namespace LoadMonitor

/-! ## Failures of calls -/

namespace Failure

theorem chain_ofChain {texts : List String} (h : texts ≠ []) : (ofChain texts).chain = texts := by
  induction texts with
  | nil => exact absurd rfl h
  | cons first rest ih =>
      cases rest with
      | nil => rfl
      | cons next rest => exact congrArg (first :: ·) (ih nofun)

/-- A chain of messages never says that the run was stopped. -/
theorem isStopped_ofChain (texts : List String) : (ofChain texts).isStopped = false := by
  induction texts with
  | nil => rfl
  | cons first rest ih =>
      cases rest with
      | nil => rfl
      | cons next rest => exact ih

end Failure

theorem CallError.chain_failure (e : CallError) : e.failure.chain = e.chain := by
  refine Failure.chain_ofChain ?_
  cases e <;> exact List.cons_ne_nil _ _

/-! ## Calls that are not stopped -/

namespace Session

variable {α : Type} {s : Session} {run : RunState} {call : ServiceCall} {e : Encounter}

/-- A call that nothing interrupts comes to the outcome of its request. -/
theorem executed_undisturbed (hrun : run.announced = false) (he : e.interrupted = false) :
    (s.executed run call e).outcome?.join =
      some ((s.client.request call).map fun r => (r, e.outcome)) := by
  unfold executed Client.exchange
  cases s.client.request call <;>
    simp [Execution.race, Execution.play, Execution.advance, Execution.look, Execution.awaits,
      Execution.pass, RaceRound.first, Branch.other, Execution.outcome?, Execution.immediate,
      Encounter.arrival, Except.map, hrun, he]

theorem conduct_client (read : HttpRequest → HttpOutcome → Except CallError α) :
    (s.conduct run call read e).2.client = s.client := by
  unfold conduct concluded
  dsimp only
  split
  · exact s.asked_client _ _
  split <;> exact s.asked_client _ _

/-- The failure of a read that nothing interrupts is told without any control. -/
theorem conduct_tame {decode : Json.Bytes → Json.Reading α}
    (hdecode : ∀ bs, Json.FailsTamely (decode bs)) (hbase : s.client.base.IsPrintable)
    (houtcome : Client.OutcomeTame e.outcome) (hrun : run.announced = false)
    (he : e.interrupted = false) {error : SessionError}
    (h : (s.conduct run call (Client.decoded decode) e).1 = .error error) :
    ∃ cause, error = .failed cause ∧ cause.IsTame := by
  obtain ⟨haddress, hrequest⟩ := Client.request_tame hbase call
  unfold conduct concluded at h
  dsimp only at h
  -- The failure is that of the request itself or that of the answer to it.
  rw [executed_undisturbed hrun he] at h
  dsimp only at h
  split at h
  · cases h
  · next cause hcause =>
    injection h with h
    refine ⟨cause, h.symm, ?_⟩
    cases hmade : s.client.request call with
    | ok r =>
        rw [hmade] at hcause
        exact Client.decoded_tame hdecode (haddress r hmade) houtcome hcause
    | error e =>
        rw [hmade] at hcause
        injection hcause with hcause
        exact hcause ▸ hrequest e hmade

end Session

namespace NetworkedService

/-- Addresses that can be printed, and a network that puts no control into its own messages. -/
structure Discreet (n : NetworkedService) : Prop where
  base : n.session.client.base.IsPrintable
  network : ∀ sent r, Client.OutcomeTame (n.network sent r).outcome

variable {α : Type} {n : NetworkedService}

theorem Discreet.encounter (h : n.Discreet) (call : ServiceCall) :
    Client.OutcomeTame (n.encounter call).outcome := by
  unfold NetworkedService.encounter
  split
  · exact h.network _ _
  · rintro fault ⟨⟩
    exact trivial

/-- The answer to a read with some format. -/
def read (n : NetworkedService) (run : RunState) (call : ServiceCall)
    (decode : Json.Bytes → Json.Reading α) : Served NetworkedService (Except Failure α) :=
  n.served (n.encounter call)
    (n.session.conduct run call (Client.decoded decode) (n.encounter call))

theorem Discreet.read (h : n.Discreet) (run : RunState) (call : ServiceCall)
    (decode : Json.Bytes → Json.Reading α) : (n.read run call decode).service.Discreet where
  base := by
    change (n.session.conduct run call (Client.decoded decode) _).2.client.base.IsPrintable
    rw [Session.conduct_client]
    exact h.base
  network := h.network

/-- If a read fails and the run is not stopped, the failure is told without any control. -/
theorem Discreet.read_tame (h : n.Discreet) {run : RunState} {call : ServiceCall}
    {decode : Json.Bytes → Json.Reading α} (hdecode : ∀ bs, Json.FailsTamely (decode bs))
    (hrun : run.announced = false) (hstops : (n.read run call decode).stops = false) {f : Failure}
    (hfailed : (n.read run call decode).answer = .error f) :
    ∃ e : CallError, f = e.failure ∧ e.IsTame := by
  have hanswer : (n.session.conduct run call (Client.decoded decode)
      (n.encounter call)).1.mapError SessionError.failure = .error f := hfailed
  cases hconduct : (n.session.conduct run call (Client.decoded decode) (n.encounter call)).1 with
  | ok a =>
      rw [hconduct] at hanswer
      cases hanswer
  | error error =>
      rw [hconduct] at hanswer
      obtain ⟨cause, rfl, htame⟩ :=
        Session.conduct_tame hdecode h.base (h.encounter call) hrun hstops hconduct
      injection hanswer with hanswer
      exact ⟨cause, hanswer.symm, htame⟩

end NetworkedService

/-! ## Runs that are not stopped -/

namespace Rehearsal

variable {ω α : Type} {w : Rehearsal ω}

theorem run_stopIf_eq_fresh {condition : Bool} (h : (w.stopIf condition).run = .fresh) :
    w.run = .fresh ∧ condition = false := by
  cases condition with
  | false => exact ⟨h, rfl⟩
  | true =>
      have hstopped := RunState.running_stop w.run
      change w.run.stop.2 = .fresh at h
      rw [h] at hstopped
      cases hstopped

/-- A call in a run that is not stopped by it. -/
theorem run_call_eq_fresh {f : RunState → ω → Served ω α} (h : (w.call f).2.run = .fresh) :
    w.run = .fresh ∧ (f w.run w.service).stops = false :=
  run_stopIf_eq_fresh (w := { w with service := (f w.run w.service).service }) h

theorem service_stopIf (condition : Bool) : (w.stopIf condition).service = w.service := by
  cases condition <;> rfl

theorem service_call (f : RunState → ω → Served ω α) :
    (w.call f).2.service = (f w.run w.service).service := by
  exact service_stopIf _

end Rehearsal

/-! ## Ticks -/

/-- The failure that an answer tells of. -/
def failureOf? {α : Type} : Except Failure α → Option Failure
  | .ok _ => none
  | .error f => some f

theorem failureOf?_eq_some {α : Type} {answer : Except Failure α} {f : Failure} :
    failureOf? answer = some f ↔ answer = .error f := by
  cases answer <;> simp [failureOf?]

/-- The failure of a read. -/
def Event.failure? : Event → Option Failure
  | readHealth answer => failureOf? answer
  | readMetrics answer => failureOf? answer
  | readAlerts answer => failureOf? answer
  | _ => none

/-- The text that an event has written, whether the screen has taken all of it or not. -/
def Event.written? : Event → Option String
  | wrote text _ => some text
  | _ => none

namespace Tick

/-- The failures of reads are told without any control, as long as the run is not stopped. -/
def ToldTamely (events : List Event) : Prop :=
  ∀ event ∈ events, ∀ f, event.failure? = some f → ∃ e : CallError, f = e.failure ∧ e.IsTame

theorem toldTamely_concat {events : List Event} {event : Event} (h : ToldTamely events)
    (hevent : ∀ f, event.failure? = some f → ∃ e : CallError, f = e.failure ∧ e.IsTame) :
    ToldTamely (events ++ [event]) := by
  unfold ToldTamely
  rw [List.forall_mem_append, List.forall_mem_singleton]
  exact ⟨h, hevent⟩

/-- What holds at any time of a tick over a network: the service is discreet, and as long as the run
is not stopped so has it been. -/
def Discreet (events : List Event) (_ : Tick) (w : Rehearsal NetworkedService) : Prop :=
  w.service.Discreet ∧ (w.run = .fresh → ToldTamely events)

/-- A read keeps it. -/
theorem discreet_call {α : Type} {events : List Event} {event : Event} {s t : Tick}
    {w : Rehearsal NetworkedService} (h : Discreet events s w) {call : ServiceCall}
    {decode : Json.Bytes → Json.Reading α} (hdecode : ∀ bs, Json.FailsTamely (decode bs))
    (hevent : ∀ f, event.failure? = some f →
      (w.service.read w.run call decode).answer = .error f) :
    Discreet (events ++ [event]) t (w.call fun run n => n.read run call decode).2 := by
  refine ⟨?_, fun hfresh => ?_⟩
  · rw [Rehearsal.service_call]
    exact h.1.read _ _ _
  · obtain ⟨hrun, hstops⟩ := Rehearsal.run_call_eq_fresh hfresh
    refine toldTamely_concat (h.2 hrun) fun f hf => ?_
    exact h.1.read_tame hdecode (by rw [hrun]; rfl) hstops (hevent f hf)

theorem discreet_step {events : List Event} {s : Tick} {e : Effect Tick}
    {w : Rehearsal NetworkedService} (h : Discreet events s w) (heffect : s.effect = some e) :
    Discreet (events ++ [w.event e]) (w.perform e).1 (w.perform e).2 := by
  -- Writing and flushing may stop the run, but have no answer from the service.
  have hquiet : ∀ {event : Event} {t : Tick} {v : Rehearsal NetworkedService} {condition : Bool},
      event.failure? = none → v.service = w.service → v.run = w.run →
      Discreet (events ++ [event]) t (v.stopIf condition) := by
    intro event t v condition hnone hservice hrun
    refine ⟨?_, fun hfresh => ?_⟩
    · rw [Rehearsal.service_stopIf, hservice]
      exact h.1
    · refine toldTamely_concat (h.2 (hrun ▸ (Rehearsal.run_stopIf_eq_fresh hfresh).1)) ?_
      intro f hf
      rw [hnone] at hf
      cases hf
  cases s with
  | clearing => cases heffect; exact hquiet rfl rfl rfl
  | askingHealth =>
      cases heffect
      exact discreet_call h healthFormat_isTame.ofBytes fun f => failureOf?_eq_some.mp
  | askingMetrics health =>
      cases heffect
      exact discreet_call h metricsFormat_isTame.ofBytes fun f => failureOf?_eq_some.mp
  | askingAlerts health metrics =>
      cases heffect
      exact discreet_call h alertsFormat_isTame.ofBytes fun f => failureOf?_eq_some.mp
  | drawing writing =>
      cases writing with
      | finished result => cases heffect
      | pending text rest => cases heffect; exact hquiet rfl rfl rfl
  | flushing => cases heffect; exact hquiet rfl rfl rfl
  | finished result => cases heffect

/-! ## The line of an error -/

theorem errorLine_failure (e : CallError) : errorLine e.failure =
    "Error updating dashboard: " ++ ": ".intercalate e.chain ++ "\n" := by
  unfold errorLine Failure.text
  rw [e.chain_failure]

/-- What a fetch comes to if one of its reads fails. -/
theorem Fetch.answer_of_failure {reads : List Event} {answer : Except Failure Snapshot}
    (h : Fetch reads answer) {event : Event} (hmem : event ∈ reads) {f : Failure}
    (hf : event.failure? = some f) : answer = .error f := by
  cases h <;> simp only [List.mem_cons, List.not_mem_nil, or_false] at hmem
  case health => subst hmem; cases hf; rfl
  case metrics => rcases hmem with rfl | rfl <;> cases hf; rfl
  case alerts => rcases hmem with rfl | rfl | rfl <;> cases hf; rfl
  case complete => rcases hmem with rfl | rfl | rfl <;> cases hf

theorem Fetch.written {reads : List Event} {answer : Except Failure Snapshot}
    (h : Fetch reads answer) (texts : List String) :
    (.wrote Frame.clearScreen (.ok ()) :: reads ++ Event.accepted texts).filterMap
      Event.written? = Frame.clearScreen :: texts := by
  have haccepted : (Event.accepted texts).filterMap Event.written? = texts := by
    unfold Event.accepted
    rw [List.filterMap_map]
    exact List.filterMap_some
  rw [List.filterMap_append, haccepted]
  cases h <;> rfl

/-- The texts that are on the screen then. -/
theorem Fetch.output {reads : List Event} {answer : Except Failure Snapshot}
    (h : Fetch reads answer) (texts : List String) (result : Except WriteError Unit) :
    Event.output (.wrote Frame.clearScreen (.ok ()) :: reads ++ Event.accepted texts ++
      [.flushed result]) = Frame.clearScreen ++ String.join texts := by
  have haccepted : (Event.accepted texts).filterMap Event.text? = texts := by
    unfold Event.accepted
    rw [List.filterMap_map]
    exact List.filterMap_some
  have hwiped : (.wrote Frame.clearScreen (.ok ()) :: reads).filterMap Event.text? =
      [Frame.clearScreen] := by
    cases h <;> rfl
  have hlast : [Event.flushed result].filterMap Event.text? = [] := rfl
  unfold Event.output
  rw [List.filterMap_append, List.filterMap_append, haccepted, hwiped, hlast, List.append_nil,
    String.join_append]
  simp

/-- A tick that has wiped the screen, if one of its reads has failed without a stop of the run. -/
theorem shown_of_failure {reads : List Event} {answer : Except Failure Snapshot}
    {texts written : List String} {last event : Event} {f : Failure} (hfetch : Fetch reads answer)
    (hshows : Shows answer texts)
    (hmem : event ∈ .wrote Frame.clearScreen (.ok ()) :: reads ++ Event.accepted written ++ [last])
    (hlast : last.failure? = none) (hf : event.failure? = some f) (hstopped : f.isStopped = false) :
    texts = [errorLine f] := by
  -- Neither what is written nor the last event fails with `f`, so one of the reads does.
  have hread : event ∈ reads := by
    simp only [List.mem_append, List.mem_cons, List.not_mem_nil, or_false] at hmem
    rcases hmem with ((rfl | hread) | haccepted) | rfl
    · cases hf
    · exact hread
    · obtain ⟨text, -, rfl⟩ := List.mem_map.mp haccepted
      cases hf
    · rw [hlast] at hf
      cases hf
  rw [hfetch.answer_of_failure hread hf] at hshows
  cases hshows with
  | line _ _ => rfl
  | nothing headlines =>
      have hroot := (isStopped_iff _).mpr ⟨headlines, rfl⟩
      rw [hstopped] at hroot
      cases hroot

/-- After a failed read a tick writes one line and nothing else. -/
theorem Course.written_of_failure {events : List Event} {result : Except WriteError Unit}
    (h : Course events result) {event : Event} (hmem : event ∈ events) {f : Failure}
    (hf : event.failure? = some f) (hstopped : f.isStopped = false) :
    events.filterMap Event.written? = [Frame.clearScreen, errorLine f] := by
  cases h with
  | unwiped e =>
      rw [List.mem_singleton.mp hmem] at hf
      cases hf
  | @refused reads answer sent rest text e hfetch hshows =>
      have htexts := shown_of_failure hfetch hshows hmem rfl hf hstopped
      -- There is only one text, so it is the first one that has been refused.
      obtain ⟨rfl, hline, rfl⟩ : sent = [] ∧ text = errorLine f ∧ rest = [] := by
        cases sent with
        | nil => simpa using htexts
        | cons first sent => simp at htexts
      rw [hline, List.filterMap_append, hfetch.written]
      rfl
  | @whole reads answer texts result hfetch hshows =>
      have htexts := shown_of_failure hfetch hshows hmem rfl hf hstopped
      rw [htexts, List.filterMap_append, hfetch.written]
      rfl

end Tick

/-- A text that ends its line and holds no other control. -/
structure SingleLine (line : String) : Prop where
  newlines : line.toList.count '\n' = 1
  last : line.toList.getLast? = some '\n'
  before : ∀ c ∈ line.toList.dropLast, isObeyed c = false

theorem Tame.singleLine {s : String} (h : Tame s) : SingleLine (s ++ "\n") := by
  have hchars : (s ++ "\n").toList = s.toList ++ ['\n'] := String.toList_append
  have hnone : '\n' ∉ s.toList := fun hmem => absurd (h '\n' hmem) (by decide)
  constructor
  · rw [hchars, List.count_append, List.count_eq_zero.mpr hnone]
    rfl
  · rw [hchars, List.getLast?_concat]
  · rw [hchars, List.dropLast_concat]
    exact h

theorem SingleLine.not_mem {line : String} (h : SingleLine line) {c : Char} (hc : isObeyed c = true)
    (hne : c ≠ '\n') : c ∉ line.toList := by
  intro hmem
  rw [← List.dropLast_append_getLast? _ h.last, List.mem_append, List.mem_singleton] at hmem
  rcases hmem with hbefore | hlast
  · rw [h.before c hbefore] at hc
    cases hc
  · exact hne hlast

namespace Tick

/-- **A failed read is shown on one line, whatever the service sends.** If a read has failed before
the run is stopped, the tick wipes the screen and writes one text: the chain of messages about a
failed call. The text ends its line and holds no other control, so neither a line break nor an
escape character, for any base address and any answers. -/
theorem failure_shown_on_one_line {address : String} {w : Rehearsal NetworkedService}
    (hclient : Client.ofBase address = .ok w.service.session.client)
    (hreasons : ∀ sent r reason,
      (w.service.network sent r).outcome = .error (.noConnection reason) → Tame reason)
    {steps asked : Nat} (hsteps : patience ≤ steps) (hasked : asked ≤ steps)
    (hrun : (w.play effect asked .clearing).2.run = .fresh) {event : Event} {f : Failure}
    (hmem : event ∈ w.trace effect asked .clearing) (hfailed : event.failure? = some f) :
    ∃ (e : CallError) (line : String), f = e.failure ∧
      line = "Error updating dashboard: " ++ ": ".intercalate e.chain ++ "\n" ∧
      (w.trace effect steps .clearing).filterMap Event.written? = [Frame.clearScreen, line] ∧
      (w.screen.limit = none → (w.play effect steps .clearing).2.screen.accepted =
        w.screen.accepted ++ (Frame.clearScreen ++ line).toUTF8) ∧
      SingleLine line ∧ '\r' ∉ line.toList ∧ '\x1b' ∉ line.toList := by
  have hdiscreet : w.service.Discreet := by
    refine ⟨Client.isPrintable_base hclient, ?_⟩
    intro sent r fault hfault
    cases fault with
    | noConnection reason => exact hreasons sent r reason hfault
    | _ => exact trivial
  -- What the read came to is known from the part of the tick that ends before any stop.
  have htold : ToldTamely (w.trace effect asked .clearing) := by
    have hstart : Discreet [] .clearing w :=
      ⟨hdiscreet, fun _ event hnone => absurd hnone List.not_mem_nil⟩
    exact (Rehearsal.play_invariant (fun _ _ _ _ h => discreet_step h) hstart asked).2 hrun
  obtain ⟨e, rfl, htame⟩ := htold event hmem f hfailed
  have hwhole := (Rehearsal.trace_prefix hasked Tick.clearing w).subset hmem
  have hline := errorLine_failure e
  have hinner : Tame ("Error updating dashboard: " ++ ": ".intercalate e.chain) :=
    .append (.of_all (by decide)) (.intercalate (.of_all (by decide)) htame)
  have hwritten : (w.trace effect steps .clearing).filterMap Event.written? =
      [Frame.clearScreen, errorLine e.failure] := by
    obtain ⟨result, -, hcourse⟩ := exists_course_play hsteps w
    exact hcourse.written_of_failure hwhole hfailed (Failure.isStopped_ofChain _)
  refine ⟨e, _, rfl, rfl, hline ▸ hwritten, ?_, hinner.singleLine, ?_, ?_⟩
  · intro hlimit
    -- Before a screen without a limit, what is written is what is shown.
    obtain ⟨reads, answer, texts, hfetch, -, htrace, -⟩ := exists_whole_play hsteps hlimit
    have hflushed : [Event.flushed w.screen.flush.1].filterMap Event.written? = [] := rfl
    rw [htrace, List.filterMap_append, hfetch.written, hflushed, List.append_nil] at hwritten
    obtain ⟨-, rfl⟩ := List.cons.inj hwritten
    rw [Rehearsal.accepted_play hlimit, htrace, hfetch.output, hline]
    simp
  · exact hinner.singleLine.not_mem (by decide) (by decide)
  · exact hinner.singleLine.not_mem (by decide) (by decide)

/-- An answer that has a text to wipe a screen with where a number belongs. -/
def wipingBody : Json.Bytes := "\x7b\"uptime_seconds\":\"\\u001b[2J\\n\"\x7d".toUTF8.toList

/-- A service that gives this answer to every question. -/
def hostile : Rehearsal NetworkedService :=
  .fresh ⟨.start Traffic.nearby, fun _ _ => ⟨.ok ⟨200, wipingBody, none⟩, .ofMillis 3, false⟩, ""⟩
    .unlimited

/-- The text reaches the screen only as the quotation of itself. -/
theorem failure_shown_on_one_line_hostile :
    ∃ (e : CallError) (line : String),
      e.chain.getLast? = some "invalid type: string \"\\u\x7b1b\x7d[2J\\n\", expected f64" ∧
      line = "Error updating dashboard: " ++ ": ".intercalate e.chain ++ "\n" ∧
      (hostile.play effect patience .clearing).2.screen.accepted =
        (Frame.clearScreen ++ line).toUTF8 ∧
      SingleLine line := by
  let failure := (CallError.undecodable Traffic.question
    (.mismatch (.wrongType (.string "\x1b[2J\n") "f64"))).failure
  have hread : (hostile.trace effect patience .clearing)[1]?.bind Event.failure? = some failure := by
    decide +kernel
  obtain ⟨event, hevent, hfailed⟩ := Option.bind_eq_some_iff.mp hread
  have hanswered : ∀ sent r reason, (hostile.service.network sent r).outcome =
      .error (.noConnection reason) → Tame reason := by nofun
  obtain ⟨e, line, hfailure, hline, -, haccepted, hone, -⟩ :=
    failure_shown_on_one_line Traffic.ofBase_nearby hanswered (Nat.le_refl _) (Nat.le_refl _)
      (by decide +kernel) (List.mem_of_getElem? hevent) hfailed
  refine ⟨e, line, ?_, hline, ?_, hone⟩
  · rw [← e.chain_failure, ← hfailure]
    decide +kernel
  · rw [haccepted rfl]
    rfl

end Tick
end LoadMonitor
