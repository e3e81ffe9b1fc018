import LoadMonitor.Client.Session
import LoadMonitor.Proofs.Run.Latch
import LoadMonitor.Proofs.Run.Race

/-!
# Calls of the service in a run that may be stopped

Somebody calls the service, again and again, while others make any calls on the run state. Each
call is a race between its request and the stop of the run: rounds of the race alternate with
steps of the others in any way, and what has come of the request by each poll is left open. A
round is one step here, at the moment at which its listener is asked: it learns of the others in
no other way (`Execution.look_look`).
-/

namespace LoadMonitor

/-- What a call hands back to its caller. -/
inductive Reply where
  | live (answer : Except PrecheckError Unit)
  | health (answer : Except SessionError HealthSnapshot)
  | metrics (answer : Except SessionError (List MetricSnapshot))
  | alerts (answer : Except SessionError (List AlertSnapshot))
  /-- A write hands nothing back. -/
  | done

namespace Session

/-- End a call of any kind with what it has come to. -/
def close (s : Session) (call : ServiceCall) (elapsed : Duration) (ending : Option Exchange) :
    Reply × Session :=
  match call with
  | .checkLive =>
    let (answer, _, s) := s.checkConcluded elapsed ending
    (.live answer, s)
  | .health =>
    let (answer, s) := s.concluded call (Client.decoded healthFormat.ofBytes) elapsed ending
    (.health answer, s)
  | .metrics =>
    let (answer, s) := s.concluded call (Client.decoded metricsFormat.ofBytes) elapsed ending
    (.metrics answer, s)
  | .alerts =>
    let (answer, s) := s.concluded call (Client.decoded alertsFormat.ofBytes) elapsed ending
    (.alerts answer, s)
  | _ => (.done, (swallowed call (s.concluded call Client.acknowledged elapsed ending)).2)

end Session

/-! ## Traffic -/

/-- A call under way. -/
structure Flight where
  call : ServiceCall
  /-- The outcome of its request, as far as it is there at each poll. -/
  arrival : Nat → Option HttpOutcome
  /-- How often its work has been polled since the listener was asked for the first time. -/
  polls? : Option Nat

namespace Flight

variable (f : Flight)

def work (c : Client) : Nat → Option Exchange := c.exchange f.call f.arrival

/-- What the call has to offer in the next round. -/
def offered (c : Client) : Option Exchange := Execution.offered (f.work c) f.polls?

/-- The next round of the race. -/
def advance (c : Client) (round : RaceRound) : Execution Exchange :=
  (Execution.underWay f.polls?).advance (f.work c) round

/-- What has come of the call by the poll that is next: why no request could be made, or its
request with the outcome, if that is there. Before the listener was asked there is no such poll. -/
inductive Brings (c : Client) : Exchange → Prop where
  | unmade {polls : Nat} {error : CallError} :
      f.polls? = some polls → c.request f.call = .error error → Brings c (.error error)
  | answered {polls : Nat} {r : HttpRequest} {outcome : HttpOutcome} :
      f.polls? = some polls → c.request f.call = .ok r → f.arrival polls = some outcome →
      Brings c (.ok (r, outcome))

/-- The session after that round: the request is sent with the first poll. -/
def asked (s : Session) (polls : Nat) : Session :=
  if f.polls?.getD 0 = 0 then s.asked f.call polls else s

end Flight

/-- How a call has come back. -/
structure Landing where
  /-- The call as it stood before the last round. -/
  flight : Flight
  elapsed : Duration
  /-- Whether the stop of the run had been announced by the last round. -/
  announced : Bool
  /-- What was there in the last round, whether it was looked at or not. -/
  offered : Option Exchange
  /-- What the call has come to: nothing if it was cancelled. -/
  ending : Option Exchange
  /-- What its caller is told. -/
  reply : Reply

def Landing.call (l : Landing) : ServiceCall := l.flight.call

/-- A run state with all calls on it, and a session with the call that is under way. -/
structure Traffic (ι : Type) where
  crowd : Crowd ι
  session : Session
  flight : Option Flight

/-- What is seen of a step. -/
inductive Sighting (ι : Type) where
  | aside (m : Option (ι × Deed))
  | departed (call : ServiceCall)
  | raced
  | landed (landing : Landing)

namespace Traffic

variable {ι : Type}

/-- Nothing was called yet. -/
def start (pool : RunHandles) (now : Duration) (client : Client) : Traffic ι :=
  ⟨.start pool now, .start client, none⟩

/-- Whether listeners have been told of the stop. -/
def announced (i : Nat) (t : Traffic ι) : Bool := (t.crowd.run i).announced

variable [DecidableEq ι]

/-- One step: something happens to the run state, a call begins, or its race goes on for a
round, which may be the last. -/
inductive Step (i : Nat) : Traffic ι → Sighting ι → Traffic ι → Prop where
  | aside {t : Traffic ι} {m : Option (ι × Deed)} {crowd : Crowd ι} :
      Crowd.Step i t.crowd m crowd → Step i t (.aside m) { t with crowd }
  | depart {t : Traffic ι} {call : ServiceCall} {arrival : Nat → Option HttpOutcome} :
      t.flight = none →
      Step i t (.departed call) { t with flight := some ⟨call, arrival, none⟩ }
  | race {t : Traffic ι} {f : Flight} {workFirst : Bool} {polls : Nat} :
      t.flight = some f →
      f.advance t.session.client ⟨t.announced i, workFirst⟩ = .racing polls →
      Step i t .raced
        { t with
          session := f.asked t.session polls
          flight := some { f with polls? := some polls } }
  | land {t : Traffic ι} {f : Flight} {workFirst : Bool} {polls : Nat}
      {ending : Option Exchange} {elapsed : Duration} :
      t.flight = some f →
      f.advance t.session.client ⟨t.announced i, workFirst⟩ = .finished polls ending →
      Step i t
        (.landed
          { flight := f, elapsed, announced := t.announced i
            offered := f.offered t.session.client, ending
            reply := ((f.asked t.session polls).close f.call elapsed ending).1 })
        { t with
          session := ((f.asked t.session polls).close f.call elapsed ending).2
          flight := none }

/-! ## What a step can do -/

variable {i : Nat} {t u : Traffic ι} {l : Landing} {m : Sighting ι}

/-- A call comes back with what its race resolves. -/
theorem Step.landed (h : Step i t (.landed l) u) :
    ∃ polls, t.flight = some l.flight ∧ l.announced = t.announced i ∧
      l.offered = l.flight.offered t.session.client ∧
      Execution.Resolves l.announced l.offered l.ending ∧
      (l.flight.asked t.session polls).close l.call l.elapsed l.ending = (l.reply, u.session) ∧
      u.flight = none ∧ u.crowd = t.crowd := by
  cases h with
  | @land f workFirst polls ending elapsed hf hadvance =>
      exact ⟨polls, hf, rfl, rfl, Execution.resolves_of_advance hadvance, rfl, rfl, rfl⟩

/-- Calls of the service do not touch the run state. -/
theorem Step.crowd (h : Step i t m u) :
    (∃ n, Crowd.Step i t.crowd n u.crowd) ∨ u.crowd = t.crowd := by
  cases h with
  | @aside n crowd hcrowd => exact .inl ⟨n, hcrowd⟩
  | _ => exact .inr rfl

theorem Step.sound (h : Step i t m u) (hsound : t.crowd.Sound i) : u.crowd.Sound i := by
  rcases h.crowd with ⟨n, hcrowd⟩ | hcrowd
  · exact hsound.step hcrowd
  · rwa [hcrowd]

/-- A run that is stopped stays so. -/
theorem Step.stopped (h : Step i t m u) (hsound : t.crowd.Sound i)
    (hrun : (t.crowd.run i).running = false) : (u.crowd.run i).running = false := by
  rcases h.crowd with ⟨n, hcrowd⟩ | hcrowd
  · exact (hcrowd.stopStep hsound.alive hsound.held).running hrun
  · rwa [hcrowd]

end Traffic

/-! ## Calls in one go -/

namespace Session

/-- A call that is carried out in one go. -/
def carriedOut (s : Session) (run : RunState) (call : ServiceCall) (e : Encounter) :
    Reply × Session :=
  match call with
  | .checkLive => (.live (s.checkLive run e).1, (s.checkLive run e).2.2)
  | .health => (.health (s.health run e).1, (s.health run e).2)
  | .metrics => (.metrics (s.metrics run e).1, (s.metrics run e).2)
  | .alerts => (.alerts (s.alerts run e).1, (s.alerts run e).2)
  | call => (.done, (s.submit run call e).2)

/-- It ends as any call does, with what its race has come to. -/
theorem carriedOut_eq (s : Session) (run : RunState) (call : ServiceCall) (e : Encounter) :
    s.carriedOut run call e = (s.asked call (s.executed run call e).polls).close call e.elapsed
      (s.executed run call e).outcome?.join := by
  cases call <;> rfl

end Session

namespace Traffic

variable {ι : Type} [DecidableEq ι] {i : Nat}

/-- Whatever happens to the run state may happen during a call. -/
theorem aside_run {before crowd : Crowd ι} {ns : List (Option (ι × Deed))} {s : Session}
    {flight : Option Flight} (h : Steps (Crowd.Step i) before ns crowd) :
    Steps (Step i) ⟨before, s, flight⟩ (ns.map .aside) ⟨crowd, s, flight⟩ := by
  induction h with
  | refl => exact .refl _
  | head hstep _ ih => exact .head (.aside hstep) ih

/-- A call has something to offer as soon as its request has an outcome. -/
theorem exchange_isSome {c : Client} {call : ServiceCall} {arrival : Nat → Option HttpOutcome}
    {polls : Nat} (h : (arrival polls).isSome) : (c.exchange call arrival polls).isSome := by
  cases hrequest : c.request call with
  | ok r => simpa [Client.exchange, hrequest] using h
  | error error => simp [Client.exchange, hrequest, Execution.immediate]

/-- A call that is carried out in one go is a call of the traffic: its race has at most two
rounds, and if the run is stopped meanwhile, it is stopped between them. -/
theorem carriedOut_run {call : ServiceCall} {e : Encounter} {before crowd : Crowd ι}
    {ns : List (Option (ι × Deed))} {s : Session} (hcrowd : Steps (Crowd.Step i) before ns crowd)
    (hannounced : (crowd.run i).announced = ((before.run i).announced || e.interrupted)) :
    ∃ ms l u, Steps (Step i) ⟨before, s, none⟩ (ms ++ [.landed l]) u ∧ l.call = call ∧
      (l.reply, u.session) = s.carriedOut (before.run i) call e := by
  let flight (polls? : Option Nat) : Flight := ⟨call, e.arrival, polls?⟩
  have hdepart : Step i ⟨before, s, none⟩ (.departed call) ⟨before, s, some (flight none)⟩ :=
    .depart rfl
  have hexecuted : s.executed (before.run i) call e =
      ((flight none).advance s.client ⟨(before.run i).announced, true⟩).advance
        ((flight none).work s.client) ⟨(before.run i).announced || e.interrupted, true⟩ := rfl
  cases hstopped : (before.run i).announced with
  | true =>
      have hfirst : (flight none).advance s.client ⟨(before.run i).announced, true⟩ =
          .finished 0 none := by
        rw [hstopped]
        rfl
      -- The listener is asked first: the call is over before its work is polled.
      refine ⟨[.departed call], _, _,
        .head hdepart (.single (@Step.land ι _ i ⟨before, s, some (flight none)⟩ (flight none)
          true 0 none e.elapsed rfl hfirst)), rfl, ?_⟩
      rw [Session.carriedOut_eq, hexecuted, hfirst]
      rfl
  | false =>
      have hfirst : (flight none).advance s.client ⟨(before.run i).announced, true⟩ =
          .racing 0 := by
        rw [hstopped]
        rfl
      have hask : Step i ⟨before, s, some (flight none)⟩ .raced
          ⟨before, s, some (flight (some 0))⟩ :=
        @Step.race ι _ i ⟨before, s, some (flight none)⟩ (flight none) true 0 rfl hfirst
      -- By the second round the answer is there unless the run was stopped.
      have hready : (crowd.run i).announced = true ∨
          ((flight (some 0)).offered s.client).isSome := by
        cases hinterrupted : e.interrupted with
        | true => exact .inl (by simp [hannounced, hinterrupted])
        | false =>
            have harrival : (e.arrival 0).isSome := by simp [Encounter.arrival, hinterrupted]
            exact .inr (exchange_isSome harrival)
      obtain ⟨polls, ending, hsecond⟩ : ∃ polls ending,
          (flight (some 0)).advance s.client ⟨(crowd.run i).announced, true⟩ =
            .finished polls ending := Execution.advance_finished hready
      have hland := @Step.land ι _ i ⟨crowd, s, some (flight (some 0))⟩ (flight (some 0)) true
        polls ending e.elapsed rfl hsecond
      refine ⟨[.departed call, .raced] ++ ns.map .aside, _, _,
        .head hdepart (.head hask ((aside_run hcrowd).trans (.single hland))), rfl, ?_⟩
      have hexecuted' : s.executed (before.run i) call e = .finished polls ending := by
        rw [hexecuted, hfirst, ← hannounced]
        exact hsecond
      rw [Session.carriedOut_eq, hexecuted']
      rfl

end Traffic
end LoadMonitor
