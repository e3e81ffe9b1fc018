import LoadMonitor.Proofs.Load.Course

/-!
# The past of a position

Every position of the load driver, within a phase and within a plan, tells which events have
led there. One step keeps that, and so does the stop of the run by somebody else.
-/

namespace LoadMonitor

/-! ## Within a phase -/

/-- The rounds so far, and the check of the allowance that has let another one begin. -/
def Phase.Ready (pacing : Pacing) (phase : Phase) (allowance : Allowance)
    (events : List Event) : Prop :=
  ∃ front gate iterations, events = front ++ gate ∧
    Phase.Through pacing phase front iterations allowance ∧ allowance.Opens gate

/-- The events of a phase that is over: all of its own, or fewer if the run is stopped. -/
def Phase.Over (pacing : Pacing) (phase : Phase) (running : Bool) (events : List Event) : Prop :=
  (∃ iterations, Phase.Full pacing phase events iterations) ∨
    (running = false ∧ ∃ iterations, Phase.Cut pacing phase events iterations)

namespace PhaseState

variable {ρ : Type}

/-- The events that lead to a position within the phase. -/
def Past (pacing : Pacing) (phase : Phase) (running : Bool) (events : List Event) :
    PhaseState ρ → Prop
  | starting duration _ => events = [] ∧ (phase = .normal duration ∨ phase = .high duration)
  | timing started duration _ =>
    ∃ iterations, Phase.Through pacing phase events iterations (.span started duration)
  | checking allowance _ => Phase.Ready pacing phase allowance events
  | submitting allowance next rest _ => ∃ front sent,
    events = front ++ .looked true :: sent.map .submitted ∧
      Phase.Ready pacing phase allowance front ∧ phase.IsIteration (sent ++ next :: rest)
  | pausing allowance _ => ∃ front sent,
    events = front ++ .looked true :: sent.map .submitted ∧
      Phase.Ready pacing phase allowance front ∧ phase.IsIteration sent
  | finished _ => Phase.Over pacing phase running events
  | drawing => True

namespace Past

variable {pacing : Pacing} {phase : Phase} {running : Bool} {events front : List Event}
  {iterations : List (List Submission)} {allowance : Allowance} {progress : Progress ρ}

/-- After whole rounds. -/
theorem again (h : Phase.Through pacing phase events iterations allowance) :
    (again progress allowance).Past pacing phase running events := by
  cases allowance with
  | span started duration => exact ⟨iterations, h⟩
  | count left =>
      cases left with
      | zero => exact .inl ⟨iterations, List.append_nil events ▸ .closed h ⟨rfl, rfl⟩⟩
      | succ left =>
          exact ⟨events, [], iterations, (List.append_nil events).symm, h, rfl, left.succ_pos⟩

/-- Within an iteration of which a part is sent. -/
theorem submit (sent rest : List Submission) (progress : Progress ρ)
    (hready : Phase.Ready pacing phase allowance front)
    (hiter : phase.IsIteration (sent ++ rest)) :
    (submit allowance progress rest).Past pacing phase running
      (front ++ .looked true :: sent.map .submitted) := by
  cases rest with
  | nil => exact ⟨front, sent, rfl, hready, by rwa [List.append_nil] at hiter⟩
  | cons next rest => exact ⟨front, sent, rfl, hready, hiter⟩

/-- After an iteration is drawn. -/
theorem iterate [RandomSource ρ] {patience : Nat}
    (hready : Phase.Ready pacing phase allowance front) :
    (iterate pacing patience phase allowance progress).Past pacing phase running
      (front ++ [.looked true]) := by
  unfold PhaseState.iterate
  cases hdraw : (phase.iteration pacing patience).run progress.source with
  | none => trivial
  | some drawn =>
      obtain ⟨ss, source⟩ := drawn
      have hiter : phase.IsIteration ss := Phase.iteration_yields pacing patience phase _ _ _ hdraw
      exact submit [] ss (progress.begun source) hready hiter

theorem start {source : ρ} : (start source phase).Past pacing phase running [] := by
  cases phase with
  | normal duration => exact ⟨rfl, .inl rfl⟩
  | high duration => exact ⟨rfl, .inr rfl⟩
  | slow count => exact again (.enter ⟨rfl, rfl⟩)

/-- The run may be stopped at any position. -/
theorem stop {s : PhaseState ρ} (h : s.Past pacing phase running events) :
    s.Past pacing phase false events := by
  cases s with
  | finished progress =>
      rcases h with h | ⟨-, h⟩
      · exact .inl h
      · exact .inr ⟨rfl, h⟩
  | _ => exact h

/-- Each step leads on to a position with one event more. -/
theorem step [RandomSource ρ] {patience : Nat} {s t : PhaseState ρ} {e : Effect (PhaseState ρ)}
    {event : Event} {run : RunState} (hpast : s.Past pacing phase run.running events)
    (heffect : s.effect pacing patience phase = some e) (htakes : e.Takes event t)
    (hagrees : event.Agrees run) :
    t.Past pacing phase run.running (events ++ [event]) := by
  cases s with
  | starting duration progress =>
      cases heffect; cases htakes with
      | clock now =>
          obtain ⟨rfl, hphase⟩ := hpast
          refine ⟨[], .enter ?_⟩
          -- Only timed phases start here.
          rcases hphase with rfl | rfl
          · exact ⟨now, rfl, rfl⟩
          · exact ⟨now, rfl, rfl⟩
  | timing started duration progress =>
      cases heffect; cases htakes with
      | clock now =>
          obtain ⟨iterations, hthrough⟩ := hpast
          by_cases htime : now.since started < duration
          · simp only [if_pos htime]
            exact ⟨events, [.timed now], iterations, rfl, hthrough, now, rfl, htime⟩
          · simp only [if_neg htime]
            exact .inl ⟨iterations, .closed hthrough ⟨now, rfl, Nat.le_of_not_lt htime⟩⟩
  | checking allowance progress =>
      cases heffect; cases htakes with
      | isRunning running =>
          cases running with
          | true => exact iterate hpast
          | false =>
              obtain ⟨front, gate, iterations, rfl, hthrough, hopen⟩ := hpast
              exact .inr ⟨hagrees.symm, iterations, .refused hthrough hopen⟩
  | submitting allowance next rest progress =>
      cases heffect; cases htakes with
      | submit =>
          obtain ⟨front, sent, rfl, hready, hiter⟩ := hpast
          have hnext : phase.IsIteration ((sent ++ [next]) ++ rest) := by
            rwa [List.append_assoc, List.singleton_append]
          simpa using submit (sent ++ [next]) rest (progress.count next) hready hnext
  | pausing allowance progress =>
      cases heffect; cases htakes with
      | pause running =>
          obtain ⟨_, sent, rfl, ⟨front, gate, iterations, rfl, hthrough, hopen⟩, hiter⟩ := hpast
          have hround : ∀ running, front ++ gate ++ .looked true :: sent.map .submitted ++
              [.paused (pacing.delay phase) running] =
                front ++ gate ++ phase.round pacing sent running :=
            fun running => List.append_assoc (front ++ gate) _ _
          rw [hround]
          -- The pause tells whether the round is followed by a check or cuts the phase.
          cases running with
          | true => exact again (hthrough.again hopen hiter)
          | false => exact .inr ⟨hagrees.symm, _, .woken hthrough hopen hiter⟩
  | finished progress => cases heffect
  | drawing => cases heffect

end Past
end PhaseState

/-! ## Within a plan -/

namespace LoadPlan

/-- The plan stands before the phase with the given number, and the events are those of the
phases before it. -/
def Upto (pacing : Pacing) (plan : LoadPlan) (number : Nat) (phase : Phase) (rest : LoadPlan)
    (events : List Event) : Prop :=
  ∃ done played, plan = done ++ phase :: rest ∧ number = done.length + 1 ∧
    Done pacing done events played

/-- The plan is broken off after some of its phases. -/
def Halted (pacing : Pacing) (plan : LoadPlan) (events : List Event) : Prop :=
  ∃ begun played, begun <+: plan ∧ Broken pacing begun events played

end LoadPlan

namespace LoadDriver

variable {ρ : Type}

/-- The events that lead to a position of the driver. -/
def Past (pacing : Pacing) (plan : LoadPlan) (flag : Bool) (events : List Event) :
    LoadDriver ρ → Prop
  | choosing number phase rest _ => LoadPlan.Upto pacing plan number phase rest events ∨
    (flag = false ∧ LoadPlan.Halted pacing plan events)
  | announcing number phase rest _ => ∃ past, events = past ++ [.looked true] ∧
    LoadPlan.Upto pacing plan number phase rest past
  | running number phase rest state => ∃ past segment,
    events = past ++ .looked true :: .printed (announcement number phase) :: segment ∧
      LoadPlan.Upto pacing plan number phase rest past ∧
      state.Past pacing phase flag segment
  | noting number rest _ => ∃ phase past segment,
    events = past ++ .looked true :: .printed (announcement number phase) :: segment ∧
      LoadPlan.Upto pacing plan number phase rest past ∧
      Phase.Over pacing phase flag segment
  | concluding _ => (∃ played, LoadPlan.Done pacing plan events played) ∨
    (flag = false ∧ LoadPlan.Halted pacing plan events)
  | finished .completed _ => ∃ past played, events = past ++ [.looked true] ∧
    LoadPlan.Done pacing plan past played
  | finished .interrupted _ => LoadPlan.Halted pacing plan events

namespace Past

variable {pacing : Pacing} {plan done rest : LoadPlan} {phase : Phase} {number : Nat}
  {flag : Bool} {events past segment : List Event} {source : ρ}

/-- After phases that are done. -/
theorem proceed {played : List (List (List Submission))} (hplan : plan = done ++ rest)
    (hnumber : number = done.length + 1) (hdone : LoadPlan.Done pacing done events played) :
    (proceed number source rest).Past pacing plan flag events := by
  cases rest with
  | nil =>
      rw [List.append_nil] at hplan
      exact .inl ⟨played, hplan ▸ hdone⟩
  | cons phase rest => exact .inl ⟨done, played, hplan, hnumber, hdone⟩

/-- After a phase that was cut, wherever the plan goes on. -/
theorem halted (h : LoadPlan.Halted pacing plan events) :
    (LoadDriver.proceed number source rest).Past pacing plan false events := by
  cases rest with
  | nil => exact .inr ⟨rfl, h⟩
  | cons phase rest => exact .inr ⟨rfl, h⟩

theorem start : (start plan source).Past pacing plan flag [] :=
  proceed (List.nil_append plan).symm rfl .nil

/-- Within a phase, or right after it. -/
theorem phased {state : PhaseState ρ} (hupto : LoadPlan.Upto pacing plan number phase rest past)
    (hstate : state.Past pacing phase flag segment) :
    (phased number phase rest state).Past pacing plan flag
      (past ++ .looked true :: .printed (announcement number phase) :: segment) := by
  cases state with
  | finished progress => exact ⟨phase, past, segment, rfl, hupto, hstate⟩
  | _ => exact ⟨past, segment, rfl, hupto, hstate⟩

/-- The run may be stopped at any position. -/
theorem stop {s : LoadDriver ρ} (h : s.Past pacing plan flag events) :
    s.Past pacing plan false events := by
  cases s with
  | choosing number phase rest source =>
      exact h.imp_right fun ⟨_, hhalted⟩ => ⟨rfl, hhalted⟩
  | running number phase rest state =>
      obtain ⟨past, segment, hevents, hupto, hstate⟩ := h
      exact ⟨past, segment, hevents, hupto, hstate.stop⟩
  | noting number rest progress =>
      obtain ⟨phase, past, segment, hevents, hupto, hover⟩ := h
      exact ⟨phase, past, segment, hevents, hupto,
        hover.imp_right fun ⟨_, hcut⟩ => ⟨rfl, hcut⟩⟩
  | concluding source => exact h.imp_right fun ⟨_, hhalted⟩ => ⟨rfl, hhalted⟩
  | announcing number phase rest source => exact h
  | finished outcome source =>
      cases outcome with
      | completed => exact h
      | interrupted => exact h

/-- Each step leads on to a position with one event more. -/
theorem step [RandomSource ρ] {patience : Nat} {s t : LoadDriver ρ} {e : Effect (LoadDriver ρ)}
    {event : Event} {run : RunState} (hpast : s.Past pacing plan run.running events)
    (heffect : s.effect pacing patience = some e) (htakes : e.Takes event t)
    (hagrees : event.Agrees run) :
    t.Past pacing plan run.running (events ++ [event]) := by
  cases s with
  | choosing number phase rest source =>
      cases heffect; cases htakes with
      | isRunning running =>
          have hrunning : running = run.running := hagrees
          rw [← hrunning] at hpast ⊢
          -- A plan that was broken off has left the flag cleared, and it stays so.
          cases running with
          | true =>
              obtain hupto | ⟨hstopped, -⟩ := hpast
              · exact ⟨events, rfl, hupto⟩
              · cases hstopped
          | false =>
              refine .inr ⟨rfl, ?_⟩
              obtain ⟨done, played, rfl, -, hdone⟩ | ⟨-, begun, played, hbegun, hbroken⟩ := hpast
              · exact ⟨done, played, List.prefix_append _ _, .between hdone⟩
              · exact ⟨begun, played, hbegun, .noticed hbroken⟩
  | announcing number phase rest source =>
      cases heffect; cases htakes with
      | print =>
          obtain ⟨past, rfl, hupto⟩ := hpast
          rw [List.append_assoc]
          exact phased hupto .start
  | running number phase rest state =>
      obtain ⟨past, segment, rfl, hupto, hstate⟩ := hpast
      obtain ⟨inner, next, hinner, hnext, rfl⟩ := Thread.takes_map heffect htakes
      rw [List.append_assoc]
      exact phased hupto (hstate.step hinner hnext hagrees)
  | noting number rest progress =>
      cases heffect; cases htakes with
      | log =>
          obtain ⟨phase, past, segment, rfl, ⟨done, played, rfl, rfl, hdone⟩, hover⟩ := hpast
          rw [List.append_assoc]
          rcases hover with ⟨iterations, hfull⟩ | ⟨hstopped, iterations, hcut⟩
          · have hnumber : done.length + 1 + 1 = (done ++ [phase]).length + 1 := by
              rw [List.length_append, List.length_singleton]
            exact proceed (List.append_cons done phase rest) hnumber (hdone.snoc _ hfull)
          · -- The phase was cut; wherever the plan goes on, the next look at the flag ends it.
            rw [hstopped]
            refine halted ⟨done ++ [phase], _, ?_, .within _ hdone hcut⟩
            exact ⟨rest, (List.append_cons done phase rest).symm⟩
  | concluding source =>
      cases heffect; cases htakes with
      | isRunning running =>
          have hrunning : running = run.running := hagrees
          rw [← hrunning] at hpast
          cases running with
          | true =>
              obtain ⟨played, hdone⟩ | ⟨hstopped, -⟩ := hpast
              · exact ⟨events, played, rfl, hdone⟩
              · cases hstopped
          | false =>
              obtain ⟨played, hdone⟩ | ⟨-, begun, played, hbegun, hbroken⟩ := hpast
              · exact ⟨plan, played, List.prefix_refl plan, .between hdone⟩
              · exact ⟨begun, played, hbegun, .noticed hbroken⟩
  | finished outcome source => cases heffect

end Past
end LoadDriver
end LoadMonitor
