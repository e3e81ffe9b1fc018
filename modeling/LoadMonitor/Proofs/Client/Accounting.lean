import LoadMonitor.Proofs.Client.Ending
import Mathlib.Data.List.Forall2

/-!
# The records of a session

Every call that comes to an end before the run is stopped leaves exactly one record, in the order
of the calls; a call that is cancelled leaves none. Once the stop of the run is over, nothing is
sent and nothing is recorded any more.
-/

namespace LoadMonitor

/-! ## What was seen -/

namespace Sighting

variable {ι : Type}

def departure? : Sighting ι → Option ServiceCall
  | departed call => some call
  | _ => none

def landing? : Sighting ι → Option Landing
  | landed l => some l
  | _ => none

/-- The calls that were made, in their order. -/
def departures (ms : List (Sighting ι)) : List ServiceCall := ms.filterMap departure?

/-- How the calls have come back, in their order. -/
def landings (ms : List (Sighting ι)) : List Landing := ms.filterMap landing?

@[simp] theorem departures_append (ms ns : List (Sighting ι)) :
    departures (ms ++ ns) = departures ms ++ departures ns :=
  List.filterMap_append

end Sighting

namespace Landing

/-- The call was not cancelled. -/
def completed (l : Landing) : Bool := l.ending.isSome

/-- The record is that of the call. -/
structure Recorded (l : Landing) (r : OperationRecord) : Prop where
  operation : r.operation = l.call.operation
  failed : r.failed = true ↔ ∃ exchange, l.ending = some exchange ∧ l.call.Fails exchange
  elapsed : r.elapsed = some l.elapsed

/-- The call has come back with what there was, and with what its caller has to know. -/
structure Answers (client : Client) (l : Landing) : Prop where
  /-- It has come to its own result unchanged, or was cancelled by the stop. -/
  resolves : Execution.Resolves l.announced l.offered l.ending
  /-- That result is what has come of its own request by the poll of the last round. -/
  own : ∀ exchange, l.offered = some exchange ↔ l.flight.Brings client exchange
  /-- A read tells of its failure, and of nothing else. -/
  read : l.call.Reads → (l.reply.IsError ↔
    l.ending = none ∨ ∃ exchange, l.ending = some exchange ∧ l.call.Fails exchange)
  /-- A write returns in any case. -/
  write : l.call ≠ .checkLive → ¬l.call.Reads → l.reply = .done

end Landing

/-! ## Sessions and requests -/

namespace Session

variable (s : Session) (call : ServiceCall) (polls : Nat)

@[simp] theorem asked_client : (s.asked call polls).client = s.client := by
  unfold asked sent
  split
  · rfl
  · split <;> rfl

@[simp] theorem asked_report : (s.asked call polls).report = s.report := by
  unfold asked sent
  split
  · rfl
  · split <;> rfl

end Session

namespace Flight

variable (f : Flight) (s : Session) (polls : Nat)

@[simp] theorem asked_client : (f.asked s polls).client = s.client := by
  unfold asked
  split
  · exact s.asked_client f.call polls
  · rfl

@[simp] theorem asked_report : (f.asked s polls).report = s.report := by
  unfold asked
  split
  · exact s.asked_report f.call polls
  · rfl

/-- What a call offers is what has come of its request. -/
theorem offered_eq_some {c : Client} {exchange : Exchange} :
    f.offered c = some exchange ↔ f.Brings c exchange := by
  unfold offered Execution.offered work Client.exchange
  constructor
  · intro h
    obtain ⟨polls, hpolls, hwork⟩ := Option.bind_eq_some_iff.mp h
    cases hrequest : c.request f.call with
    | ok r =>
        rw [hrequest] at hwork
        obtain ⟨outcome, harrival, rfl⟩ := Option.map_eq_some_iff.mp hwork
        exact .answered hpolls hrequest harrival
    | error error =>
        rw [hrequest] at hwork
        obtain rfl := Option.some.inj hwork
        exact .unmade hpolls hrequest
  · intro h
    cases h with
    | unmade hpolls hrequest => simp [hpolls, hrequest, Execution.immediate]
    | answered hpolls hrequest harrival => simp [hpolls, hrequest, harrival]

variable {f} in
theorem Brings.eq_map {c : Client} {exchange : Exchange} (h : f.Brings c exchange) :
    ∃ outcome, exchange = (c.request f.call).map fun r => (r, outcome) := by
  cases h with
  | unmade _ hrequest =>
      -- Without a request the outcome does not matter.
      exact ⟨.error .closed, by rw [hrequest]; rfl⟩
  | @answered polls r outcome _ hrequest _ => exact ⟨outcome, by rw [hrequest]; rfl⟩

end Flight

namespace Traffic

variable {ι : Type} [DecidableEq ι] {i : Nat} {c : Client} {t u : Traffic ι}
  {m : Sighting ι} {ms : List (Sighting ι)}

/-! ## Landings -/

/-- Every call comes back with an answer that fits. -/
theorem Step.answers {l : Landing} (h : Step i t (.landed l) u) : l.Answers t.session.client := by
  obtain ⟨polls, -, -, hoffered, hresolves, hclose, -, -⟩ := h.landed
  have hreply :
      l.reply = ((l.flight.asked t.session polls).close l.call l.elapsed l.ending).1 := by
    rw [hclose]
  have hcancelled := (l.flight.asked t.session polls).close_cancelled l.call l.elapsed
  have hcompleted := fun exchange (hne : l.call ≠ .checkLive) =>
    (l.flight.asked t.session polls).close_completed l.elapsed exchange hne
  constructor
  case resolves => exact hresolves
  case own =>
    intro exchange
    rw [hoffered]
    exact l.flight.offered_eq_some
  case read =>
    intro hreads
    rw [hreply]
    cases hending : l.ending with
    | none => simpa using hcancelled.2.1 hreads
    | some exchange =>
        have hne : l.call ≠ .checkLive := by
          intro hlive
          rw [hlive] at hreads
          exact hreads
        simpa using (hcompleted exchange hne).2.1 hreads
  case write =>
    intro hne hreads
    rw [hreply]
    cases l.ending with
    | none => exact hcancelled.2.2 hne hreads
    | some exchange => exact (hcompleted exchange hne).2.2 hreads

/-- The client stays the same. -/
theorem Step.same_client (h : Step i t m u) : u.session.client = t.session.client := by
  cases h with
  | aside _ => rfl
  | depart _ => rfl
  | @race f workFirst polls _ _ => exact f.asked_client t.session polls
  | @land f workFirst polls ending elapsed _ _ =>
      rw [Session.close_client]
      exact f.asked_client t.session polls

/-- What a landing adds to the report. -/
theorem Step.report {l : Landing} (h : Step i t (.landed l) u) (hne : l.call ≠ .checkLive) :
    ∃ added, u.session.report = t.session.report ++ added ∧
      List.Forall₂ Landing.Recorded ([l].filter Landing.completed) added := by
  obtain ⟨polls, -, -, -, -, hclose, -, -⟩ := h.landed
  have hsession : u.session =
      ((l.flight.asked t.session polls).close l.call l.elapsed l.ending).2 := by rw [hclose]
  rw [hsession]
  cases hending : l.ending with
  | none =>
      -- Nothing is recorded of a call that was cancelled.
      refine ⟨[], ?_, ?_⟩
      · rw [((l.flight.asked t.session polls).close_cancelled l.call l.elapsed).1]
        simp
      · have hcompleted : l.completed = false := by simp [Landing.completed, hending]
        simp [hcompleted]
  | some exchange =>
      obtain ⟨⟨failed, hrecorded, hfailed⟩, -⟩ :=
        (l.flight.asked t.session polls).close_completed l.elapsed exchange hne
      have hcompleted : l.completed = true := by simp [Landing.completed, hending]
      rw [hrecorded]
      refine ⟨[(OperationRecord.begun l.call.operation).finish failed l.elapsed], ?_, ?_⟩
      · simp [Session.recorded]
      · rw [List.filter_cons_of_pos hcompleted]
        refine .cons ⟨rfl, ?_, rfl⟩ .nil
        simpa [hending, OperationRecord.finish] using hfailed

/-! ## Along a run -/

/-- What holds after every run that has begun with nothing called. -/
structure Kept (i : Nat) (c : Client) (ms : List (Sighting ι)) (t : Traffic ι) : Prop where
  sound : t.crowd.Sound i
  same : t.session.client = c
  calls : Sighting.departures ms =
    (Sighting.landings ms).map (·.call) ++ t.flight.toList.map (·.call)
  /-- A liveness check may end without a record, so it must not be among the calls. -/
  records : (∀ l ∈ Sighting.landings ms, l.call ≠ .checkLive) →
    List.Forall₂ Landing.Recorded ((Sighting.landings ms).filter Landing.completed)
      t.session.report
  stopped : ∀ l ∈ Sighting.landings ms, l.announced = true → (t.crowd.run i).running = false
  answers : ∀ l ∈ Sighting.landings ms, l.Answers c

/-- Nothing has landed. -/
theorem Kept.none_landed (h : Kept i c ms t) (hstep : Step i t m u)
    (hm : m.landing? = none) (hreport : u.session.report = t.session.report)
    (hclient : u.session.client = t.session.client)
    (hcalls : t.flight.toList.map (·.call) ++ m.departure?.toList =
      u.flight.toList.map (·.call)) : Kept i c (ms ++ [m]) u := by
  have hlandings : Sighting.landings (ms ++ [m]) = Sighting.landings ms := by
    simp [Sighting.landings, hm]
  constructor
  case sound => exact hstep.sound h.sound
  case same => exact hclient.trans h.same
  case calls =>
    have hdepartures : Sighting.departures [m] = m.departure?.toList := by
      cases m <;> rfl
    rw [hlandings, Sighting.departures_append, h.calls, hdepartures, List.append_assoc, hcalls]
  case records =>
    rw [hlandings, hreport]
    exact h.records
  case stopped =>
    rw [hlandings]
    intro l hl hannounced
    exact hstep.stopped h.sound (h.stopped l hl hannounced)
  case answers =>
    rw [hlandings]
    exact h.answers

theorem Kept.landed {l : Landing} (h : Kept i c ms t) (hstep : Step i t (.landed l) u) :
    Kept i c (ms ++ [.landed l]) u := by
  obtain ⟨polls, hf, hannounced, -, -, hclose, hflight, hcrowd⟩ := hstep.landed
  have hlandings : Sighting.landings (ms ++ [.landed l]) = Sighting.landings ms ++ [l] := by
    simp [Sighting.landings, Sighting.landing?]
  constructor
  case sound => exact hstep.sound h.sound
  case same => exact hstep.same_client.trans h.same
  case calls =>
    have hdepartures : Sighting.departures (ms ++ [.landed l]) = Sighting.departures ms := by
      simp [Sighting.departures, Sighting.departure?]
    rw [hdepartures, hlandings, h.calls, hf, hflight]
    simp [Landing.call]
  case records =>
    rw [hlandings]
    intro hcalls
    obtain ⟨added, hreport, hadded⟩ := hstep.report (hcalls l (by simp))
    rw [hreport, List.filter_append]
    exact List.rel_append (h.records fun l' hl' => hcalls l' (by simp [hl'])) hadded
  case stopped =>
    rw [hlandings, hcrowd]
    intro l' hl' hl'announced
    rcases List.mem_append.mp hl' with hbefore | hnew
    · exact h.stopped l' hbefore hl'announced
    · obtain rfl := List.mem_singleton.mp hnew
      -- Its last round was told of a stop, so the flag was cleared before.
      rw [hannounced] at hl'announced
      exact h.sound.latched.stopped_of_announced hl'announced
  case answers =>
    rw [hlandings]
    intro l' hl'
    rcases List.mem_append.mp hl' with hbefore | hnew
    · exact h.answers l' hbefore
    · obtain rfl := List.mem_singleton.mp hnew
      exact h.same ▸ hstep.answers

theorem Kept.step (h : Kept i c ms t) (hstep : Step i t m u) :
    Kept i c (ms ++ [m]) u := by
  have hkept := hstep
  cases hkept with
  | aside hcrowd => exact h.none_landed hstep rfl rfl rfl (List.append_nil _)
  | depart hnone => exact h.none_landed hstep rfl rfl rfl (by simp [hnone, Sighting.departure?])
  | @race f workFirst polls hf hadvance =>
      refine h.none_landed hstep rfl (f.asked_report ..) (f.asked_client ..) ?_
      simp [hf, Sighting.departure?]
  | land hf hadvance => exact h.landed hstep

theorem kept_of_run {pool : RunHandles} {now : Duration} (halive : i < pool.states.length)
    (hfresh : pool.state i = .fresh) (h : Steps (Step i) (start pool now c) ms t) :
    Kept i c ms t := by
  refine h.invariant (P := fun ms t => Kept i c ms t) ?_ fun _ _ _ _ hkept hstep =>
    hkept.step hstep
  have hsound : (Crowd.start pool now : Crowd ι).Sound i :=
    Crowd.sound_of_run halive hfresh (.refl _)
  exact ⟨hsound, rfl, rfl, fun _ => .nil, fun _ hl => absurd hl List.not_mem_nil,
    fun _ hl => absurd hl List.not_mem_nil⟩

/-! ## After the stop -/

/-- The listeners know of the stop, and nothing was sent or recorded since. -/
structure Quiet (i : Nat) (s : Session) (t : Traffic ι) : Prop where
  sound : t.crowd.Sound i
  announced : t.announced i = true
  same : t.session = s
  idle : ∀ f, t.flight = some f → f.polls? = none

omit [DecidableEq ι] in
/-- The listener is asked before the work is polled for the first time, so a call that is made
now comes back at once. -/
theorem Quiet.advance {s : Session} {f : Flight} (h : Quiet i s t) (hf : t.flight = some f)
    (workFirst : Bool) :
    f.advance t.session.client ⟨t.announced i, workFirst⟩ = .finished 0 none := by
  unfold Flight.advance
  rw [h.idle f hf, Execution.advance_starting, if_pos h.announced]

theorem Quiet.step {s : Session} (h : Quiet i s t) (hstep : Step i t m u) : Quiet i s u := by
  have hsound := hstep.sound h.sound
  cases hstep with
  | aside hcrowd => exact ⟨hsound, h.sound.announced hcrowd h.announced, h.same, h.idle⟩
  | depart _ =>
      refine ⟨hsound, h.announced, h.same, ?_⟩
      rintro f ⟨⟩
      rfl
  | @race f workFirst polls hf hadvance =>
      rw [h.advance hf workFirst] at hadvance
      cases hadvance
  | @land f workFirst polls ending elapsed hf hadvance =>
      rw [h.advance hf workFirst] at hadvance
      cases hadvance
      have hasked : f.asked t.session 0 = t.session := by
        simp [Flight.asked, h.idle f hf, Session.asked]
      refine ⟨hsound, h.announced, ?_, nofun⟩
      rw [hasked, (t.session.close_cancelled f.call elapsed).1]
      exact h.same

/-- A call that is made then is cancelled. -/
theorem Quiet.declines {s : Session} {l : Landing} (h : Quiet i s t)
    (hstep : Step i t (.landed l) u) : l.ending = none := by
  cases hstep with
  | @land f workFirst polls ending elapsed hf hadvance =>
      rw [h.advance hf workFirst] at hadvance
      cases hadvance
      rfl

/-- All is quiet after a stop has returned with success and the last call has come back. -/
theorem Kept.quiet {ns : List (Sighting ι)} (h : Kept i c ms t)
    (hstop : ∃ stop, t.crowd.HasReturned stop true) (hflight : t.flight = none)
    (hafter : Steps (Step i) t ns u) : Quiet i t.session u := by
  obtain ⟨stop, hreturned⟩ := hstop
  have hannounced : t.announced i = true :=
    h.sound.latched.announced.mpr ⟨stop, hreturned.stops⟩
  refine hafter.invariant (P := fun _ u => Quiet i t.session u) ?_ fun _ _ _ _ hbefore hstep =>
    hbefore.step hstep
  exact ⟨h.sound, hannounced, rfl, fun f hf => by simp [hflight] at hf⟩

/-- A call comes back in the very round in which its answer, or the stop, is there. -/
theorem lands {f : Flight} (hf : t.flight = some f)
    (hready : t.announced i = true ∨ (f.offered t.session.client).isSome) :
    (∃ l u, Step i t (.landed l) u) ∧ ∀ u, ¬Step i t .raced u := by
  have hfinished : ∀ workFirst, ∃ polls ending,
      f.advance t.session.client ⟨t.announced i, workFirst⟩ = .finished polls ending :=
    fun _ => Execution.advance_finished hready
  constructor
  · obtain ⟨polls, ending, hadvance⟩ := hfinished true
    exact ⟨_, _, @Step.land ι _ i t f true polls ending .zero hf hadvance⟩
  · intro u hstep
    cases hstep with
    | @race f' workFirst polls hf' hadvance =>
        obtain rfl := Option.some.inj (hf.symm.trans hf')
        obtain ⟨polls', ending, hadvance'⟩ := hfinished workFirst
        rw [hadvance] at hadvance'
        cases hadvance'

/-! ## Accounts -/

/-- How the calls of a session, its records and the stop of the run belong together. -/
structure Accounts (i : Nat) (c : Client) (ms : List (Sighting ι)) (t : Traffic ι) : Prop where
  /-- Calls come back in their order; only the last one may be under way. -/
  calls : Sighting.departures ms =
    (Sighting.landings ms).map (·.call) ++ t.flight.toList.map (·.call)
  /-- One record for each call that was not cancelled, and no other record. -/
  records : List.Forall₂ Landing.Recorded
    ((Sighting.landings ms).filter Landing.completed) t.session.report
  /-- What the callers are told. -/
  answers : ∀ l ∈ Sighting.landings ms, l.Answers c
  /-- Calls are cancelled only in a run that was stopped. -/
  cancelled : ∀ l ∈ Sighting.landings ms, l.ending = none → (t.crowd.run i).running = false
  /-- A call comes back in the very round in which its answer, or the stop, is there. -/
  lands : ∀ f, t.flight = some f →
    t.announced i = true ∨ (f.offered t.session.client).isSome →
    (∃ l u, Step i t (.landed l) u) ∧ ∀ u, ¬Step i t .raced u
  /-- After a stop has returned with success, later calls send nothing and record nothing. -/
  settled : (∃ stop, t.crowd.HasReturned stop true) → t.flight = none →
    ∀ ns u, Steps (Step i) t ns u →
      u.session.requests = t.session.requests ∧ u.session.report = t.session.report

/-- The accounts of a session are exact, whatever the service does and whenever the run is
stopped. -/
theorem accounts_of_run {pool : RunHandles} {now : Duration} (halive : i < pool.states.length)
    (hfresh : pool.state i = .fresh) (hcalls : ∀ call, .departed call ∈ ms → call ≠ .checkLive)
    (h : Steps (Step i) (start pool now c) ms t) : Accounts i c ms t := by
  have hkept := kept_of_run halive hfresh h
  constructor
  case calls => exact hkept.calls
  case records =>
    refine hkept.records fun l hl => hcalls l.call ?_
    -- What has landed has departed, and no liveness check has.
    have hdeparted : l.call ∈ Sighting.departures ms := by
      rw [hkept.calls]
      exact List.mem_append_left _ (List.mem_map_of_mem hl)
    obtain ⟨m, hm, hcall⟩ := List.mem_filterMap.mp hdeparted
    cases m <;> cases hcall
    exact hm
  case answers => exact hkept.answers
  case cancelled =>
    intro l hl hending
    exact hkept.stopped l hl ((hkept.answers l hl).resolves.announced hending)
  case lands => exact fun f hf hready => lands hf hready
  case settled =>
    intro hstop hflight ns u hafter
    have hquiet := hkept.quiet hstop hflight hafter
    exact ⟨by rw [hquiet.same], by rw [hquiet.same]⟩

/-! ## A query that is refused before a stop -/

/-- A client for a service on the same machine. -/
def nearby : Client :=
  ⟨⟨"http".toList, some ⟨[], none, .name "localhost".toList, none⟩, .segments [[]], none, none⟩⟩

/-- The request for a query. -/
def selection : HttpRequest where
  method := .post
  url := { nearby.base with path := .segments ["query".toList, "execute".toList] }
  body := (ServiceCall.postQuery "SELECT 1").body

/-- The query under way. It is refused with a status that is there when its work is polled for
the second time. -/
def query (polls? : Option Nat) : Flight where
  call := .postQuery "SELECT 1"
  arrival polls := if polls = 0 then none else some (.ok ⟨500, [], none⟩)
  polls? := polls?

def refused : Landing where
  flight := query (some 1)
  elapsed := .ofMillis 3
  announced := false
  offered := some (.ok (selection, .ok ⟨500, [], none⟩))
  ending := some (.ok (selection, .ok ⟨500, [], none⟩))
  reply := .done

/-- A read that is called after the stop is not begun. -/
def declined : Landing where
  flight := ⟨.health, fun _ => none, none⟩
  elapsed := .zero
  announced := true
  offered := none
  ending := none
  reply := .health (.error .stopped)

/-- A query is put and refused; then the run is stopped, and a read is called. -/
def outing : List (Sighting Unit) :=
  [.departed (.postQuery "SELECT 1"), .raced, .raced, .landed refused,
    .aside (some ((), .begin)), .aside (some ((), .lock)), .aside (some ((), .look)),
    .aside (some ((), .leave)), .aside (some ((), .notify)), .aside (some ((), .announce)),
    .departed .health, .landed declined]

/-- The session after the query. -/
def charged : Session := ⟨nearby, [selection], [⟨"post_query", true, some (.ofMillis 3)⟩]⟩

/-- The only stop has returned. -/
def stilled : Crowd Unit :=
  ⟨⟨[⟨false, true⟩], [some 0], []⟩, .zero, .free, fun _ => some (.stopping (.finished true))⟩

theorem query_run : Steps (Step 0) (start .single .zero nearby) (outing.take 4)
    (⟨.start .single .zero, charged, none⟩ : Traffic Unit) :=
  .head (@Step.depart Unit _ 0 _ _ (query none).arrival rfl) <|
  .head (@Step.race Unit _ 0 ⟨.start .single .zero, .start nearby, some (query none)⟩
    (query none) true 0 rfl rfl) <|
  .head (@Step.race Unit _ 0 ⟨.start .single .zero, .start nearby, some (query (some 0))⟩
    (query (some 0)) true 1 rfl rfl) <|
  .head (@Step.land Unit _ 0
    ⟨.start .single .zero, ⟨nearby, [selection], []⟩, some (query (some 1))⟩
    (query (some 1)) true 2 refused.ending refused.elapsed rfl rfl) <| .refl _

theorem stop_run : Steps (Step 0) (⟨.start .single .zero, charged, none⟩ : Traffic Unit)
    (outing.drop 4) ⟨stilled, charged, none⟩ := by
  suffices ∃ t, Steps (Step 0) (⟨.start .single .zero, charged, none⟩ : Traffic Unit)
      (outing.drop 4) t ∧ t = ⟨stilled, charged, none⟩ by
    obtain ⟨t, ht, rfl⟩ := this
    exact ht
  have hhandle : RunHandles.single.target 0 = some 0 := rfl
  have hfresh : (RunCall.stopping .testing).Fresh := rfl
  exact ⟨_, .head (.aside (.begin hhandle rfl hfresh)) <| .head (.aside (.lock rfl rfl rfl)) <|
    .head (.aside (.look rfl rfl)) <| .head (.aside (.leave rfl)) <|
    .head (.aside (.notify rfl nofun)) <| .head (.aside (.announce rfl)) <|
    .head (@Step.depart Unit _ 0 _ _ (fun _ => none) rfl) <|
    .head (@Step.land Unit _ 0 ⟨stilled, charged, some ⟨.health, fun _ => none, none⟩⟩
      ⟨.health, fun _ => none, none⟩ true 0 none .zero rfl rfl) <| .refl _, rfl⟩

/-- A query is refused and on record as failed; a read after the stop is not. -/
theorem accounts_of_run_outing :
    0 < RunHandles.single.states.length ∧ RunHandles.single.state 0 = .fresh ∧
      (∀ call, .departed call ∈ outing → call ≠ .checkLive) ∧
      Steps (Step 0) (start .single .zero nearby) outing ⟨stilled, charged, none⟩ ∧
      Accounts 0 nearby outing ⟨stilled, charged, none⟩ := by
  have hcalls : ∀ call, .departed call ∈ outing → call ≠ .checkLive := by
    intro call hcall
    simp only [outing, List.mem_cons, Sighting.departed.injEq, reduceCtorEq, List.not_mem_nil,
      false_or, or_false] at hcall
    rcases hcall with rfl | rfl <;> nofun
  have hrun : Steps (Step 0) (start .single .zero nearby) outing ⟨stilled, charged, none⟩ :=
    query_run.trans stop_run
  exact ⟨by decide, rfl, hcalls, hrun, accounts_of_run (by decide) rfl hcalls hrun⟩

end Traffic
end LoadMonitor
