import LoadMonitor.Proofs.Run.Latch
import LoadMonitor.Proofs.Run.Race
import LoadMonitor.Service.Failure

/-!
# Work that others may stop

One execution beside any number of calls on the run state. It creates a listener, asks it, and
then goes through rounds in which the work is polled and the listener is asked, in either order,
until one of the two is ready. Every look is a step of its own: the others go on between any two
of them, also within a round.

Whoever carries out the work keeps a handle on the run state meanwhile. So the listener is not
released for want of handles, and nothing but a stop cancels the work.
-/

namespace LoadMonitor

/-- What the caller is told: the result of the work, or that the run was stopped. -/
def Execution.answer {α : Type} : Option (Except Failure α) → Except Failure α
  | some own => own
  | none => .error .stopped

/-- A run state with all calls on it, and an execution in the same run. -/
structure Venture (ι α : Type) where
  crowd : Crowd ι
  /-- The number of its listener, which is created as the execution begins. -/
  listener : Option Nat
  execution : Execution α

namespace Venture

/-- What is seen of a step of a venture. -/
inductive Turn (ι : Type) where
  | aside (m : Option (ι × Deed))
  | subscribed
  /-- The listener was asked before the first round. -/
  | asked
  | looked (branch : Branch)

/-- The step is one of the execution. -/
def Turn.isOwn {ι : Type} : Turn ι → Bool
  | aside _ => false
  | _ => true

/-- How many steps of the execution there are. -/
def Turn.ownSteps {ι : Type} (turns : List (Turn ι)) : Nat := turns.countP isOwn

variable {ι α : Type}

theorem Turn.ownSteps_cons (turn : Turn ι) (turns : List (Turn ι)) :
    ownSteps (turn :: turns) = ownSteps [turn] + ownSteps turns := by
  simp [ownSteps, List.countP_cons, Nat.add_comm]

/-- Nothing has begun yet. -/
def start (pool : RunHandles) (now : Duration) : Venture ι α := ⟨.start pool now, none, .starting⟩

/-- The stop of the run has been published to the listeners. -/
def IsPublished (i : Nat) (v : Venture ι α) : Prop := (v.crowd.run i).announced = true

/-- The execution is back at its caller. -/
def IsOver (v : Venture ι α) : Prop := ∃ polls result, v.execution = .finished polls result

/-- How many steps it takes to create the listener. -/
def subscribing (v : Venture ι α) : Nat := if v.listener.isSome then 0 else 1

/-- How many steps the execution has still to take at most if the stop is published. -/
def owed (v : Venture ι α) : Nat := v.subscribing + v.execution.owed

/-- How many steps it has still to take at most if the work is done with the given poll. -/
def left (last : Nat) (v : Venture ι α) : Nat := v.subscribing + v.execution.left last

variable [DecidableEq ι]

/-- One step of the run state with the given number, which the given handle refers to. -/
inductive Step (i handle : Nat) (work : Nat → Option α) :
    Venture ι α → Turn ι → Venture ι α → Prop where
  /-- Others go on. They cannot give up a handle that is not theirs. -/
  | aside {v : Venture ι α} {m : Option (ι × Deed)} {crowd : Crowd ι} :
      Crowd.Step i v.crowd m crowd → crowd.pool.target handle = some i →
      Step i handle work v (.aside m) { v with crowd }
  | subscribe {v : Venture ι α} :
      v.listener = none →
      Step i handle work v .subscribed
        { v with
          crowd := { v.crowd with pool := (v.crowd.pool.listen i).2 }
          listener := some (v.crowd.pool.listen i).1 }
  | ask {v : Venture ι α} {listener : Nat} {answer : Bool} :
      v.listener = some listener → v.execution = .starting →
      v.crowd.pool.isOver listener = some answer →
      Step i handle work v .asked { v with execution := v.execution.look work answer .listener }
  | look {v : Venture ι α} {branch : Branch} :
      v.execution ≠ .starting → v.execution.awaits branch = true →
      Step i handle work v (.looked branch)
        { v with execution := v.execution.look work (v.crowd.pool.isReleased i) branch }

variable {i handle : Nat} {work : Nat → Option α} {v u : Venture ι α} {turn : Turn ι}

/-! ## What a step can do -/

omit [DecidableEq ι] in
/-- As long as somebody has a handle, a listener that waits is released only by a stop. -/
theorem isReleased_eq {p : Crowd ι} (h : p.pool.target handle = some i) :
    p.pool.isReleased i = (p.run i).announced := by
  have hhandle : p.pool.handles[handle]? = some (some i) := Option.join_eq_some_iff.mp h
  have hshared : p.pool.isShared i = true := by
    simp only [RunHandles.isShared, List.any_eq_true, beq_iff_eq]
    exact ⟨some i, List.mem_of_getElem? hhandle, rfl⟩
  simp [RunHandles.isReleased, hshared, RunState.isOver, Crowd.run]

/-- A listener goes on watching the run state that it watches. -/
theorem watched_step {p q : Crowd ι} {m : Option (ι × Deed)} {listener : Nat}
    (hstep : Crowd.Step i p m q) (h : p.pool.watched listener = some i) :
    q.pool.watched listener = some i := by
  have hlisten : (p.pool.listen i).2.watched listener = some i := by
    obtain ⟨hlt, -⟩ := List.getElem?_eq_some_iff.mp h
    simp only [RunHandles.watched, RunHandles.listen, List.getElem?_append_left hlt]
    exact h
  cases hstep with
  | listen _ => exact hlisten
  | copy _ => exact hlisten
  | _ => exact h

/-- What holds of a venture at every moment. -/
structure Kept (i handle : Nat) (work : Nat → Option α) (v : Venture ι α) : Prop where
  sound : v.crowd.Sound i
  held : v.crowd.pool.target handle = some i
  watching : ∀ listener, v.listener = some listener → v.crowd.pool.watched listener = some i
  /-- Nothing else happens before the execution has its listener. -/
  listening : v.listener = none → v.execution = .starting
  fits : v.execution.Fits work
  stopped : ∀ polls, v.execution = .finished polls none → v.IsPublished i

/-- All that a step can do: others go on, the execution creates its listener, or it looks at a
branch, where the listener tells whether the stop is published. -/
inductive Goes (i : Nat) (work : Nat → Option α) (v u : Venture ι α) : Turn ι → Prop where
  | aside {m : Option (ι × Deed)} :
      Crowd.Step i v.crowd m u.crowd → u.listener = v.listener → u.execution = v.execution →
      Goes i work v u (.aside m)
  | subscribed :
      Crowd.Step i v.crowd none u.crowd → v.listener = none → u.listener.isSome →
      u.execution = v.execution → Goes i work v u .subscribed
  | looked {turn : Turn ι} {branch : Branch} :
      turn.isOwn = true → u.crowd = v.crowd → u.listener = v.listener → v.listener.isSome →
      Execution.Looked work (v.crowd.run i).announced v.execution branch u.execution →
      Goes i work v u turn

omit [DecidableEq ι] in
theorem Kept.isSome_listener (h : Kept i handle work v) (hbegun : v.execution ≠ .starting) :
    v.listener.isSome := by
  by_contra hnone
  exact hbegun (h.listening (by simpa using hnone))

theorem Kept.goes (h : Kept i handle work v) (hstep : Step i handle work v turn u) :
    Goes i work v u turn := by
  cases hstep with
  | aside hcrowd _ => exact .aside hcrowd rfl rfl
  | subscribe hnone => exact .subscribed (.listen h.held) hnone rfl rfl
  | @ask listener answer hlistener hstarting hover =>
      -- The listener watches this run state, so it tells whether the stop is published.
      have hwatched := h.watching listener hlistener
      obtain rfl : (v.crowd.run i).announced = answer := by
        simpa [Crowd.run, RunHandles.isOver, hwatched, RunState.isOver] using hover
      have hawaits : v.execution.awaits .listener = true := by rw [hstarting]; rfl
      exact .looked rfl rfl rfl (by simp [hlistener]) (Execution.looked hawaits)
  | @look branch hbegun hawaits =>
      rw [isReleased_eq h.held]
      exact .looked rfl rfl rfl (h.isSome_listener hbegun) (Execution.looked hawaits)

theorem Goes.published (h : Goes i work v u turn) (hsound : v.crowd.Sound i)
    (hpublished : v.IsPublished i) : u.IsPublished i := by
  cases h with
  | aside hcrowd _ _ => exact hsound.announced hcrowd hpublished
  | subscribed hcrowd _ _ _ => exact hsound.announced hcrowd hpublished
  | looked _ hcrowd _ _ _ =>
      unfold IsPublished
      rwa [hcrowd]

/-- A step that makes an execution come back without a result has been told of the stop. -/
theorem Goes.stopped (h : Goes i work v u turn) {polls : Nat}
    (hstopped : ∀ polls, v.execution = .finished polls none → v.IsPublished i)
    (hsound : v.crowd.Sound i) (hfinished : u.execution = .finished polls none) :
    u.IsPublished i := by
  refine h.published hsound ?_
  cases h with
  | aside _ _ hexecution => exact hstopped polls (hexecution.symm.trans hfinished)
  | subscribed _ _ _ hexecution => exact hstopped polls (hexecution.symm.trans hfinished)
  | looked _ _ _ _ hlooked =>
      rw [hfinished] at hlooked
      exact hlooked.announced_of_none

theorem Kept.step (h : Kept i handle work v) (hstep : Step i handle work v turn u) :
    Kept i handle work u := by
  have hgoes := h.goes hstep
  have hheld : u.crowd.pool.target handle = some i := by
    cases hstep with
    | aside _ hheld => exact hheld
    | _ => exact h.held
  have hstopped : ∀ polls, u.execution = .finished polls none → u.IsPublished i :=
    fun polls => hgoes.stopped h.stopped h.sound
  cases hgoes with
  | aside hcrowd hlistener hexecution =>
      refine ⟨h.sound.step hcrowd, hheld, ?_, ?_, ?_, hstopped⟩
      · intro listener hl
        exact watched_step hcrowd (h.watching listener (by rwa [← hlistener]))
      · rw [hlistener, hexecution]
        exact h.listening
      · rw [hexecution]
        exact h.fits
  | subscribed hcrowd hnone hsome hexecution =>
      -- There was no listener, so nothing of the execution has happened yet.
      have hstarting : u.execution = .starting := hexecution.trans (h.listening hnone)
      refine ⟨h.sound.step hcrowd, hheld, ?_, fun _ => hstarting, hexecution ▸ h.fits, hstopped⟩
      cases hstep with
      | subscribe _ =>
          rintro listener ⟨⟩
          simp [RunHandles.listen, RunHandles.watched]
  | looked _ hcrowd hlistener hsome hlooked =>
      refine ⟨by rw [hcrowd]; exact h.sound, hheld, ?_, ?_, hlooked.fits h.fits, hstopped⟩
      · rw [hlistener, hcrowd]
        exact h.watching
      · intro hnone
        rw [hlistener] at hnone
        simp [hnone] at hsome

theorem kept_of_run {pool : RunHandles} {now : Duration} {turns : List (Turn ι)}
    (halive : i < pool.states.length) (hfresh : pool.state i = .fresh)
    (hheld : pool.target handle = some i)
    (h : Steps (Step i handle work) (start pool now) turns v) : Kept i handle work v := by
  refine h.invariant (P := fun _ v => Kept i handle work v) ?_ fun _ _ _ _ hkept hstep =>
    hkept.step hstep
  exact ⟨Crowd.sound_of_run halive hfresh (.refl _), hheld, nofun, fun _ => rfl,
    fun n hn => absurd hn n.not_lt_zero, nofun⟩

/-! ## How long it takes -/

variable {turns : List (Turn ι)} {measure : Execution α → Nat}

/-- A number that every look makes smaller bounds the steps of an execution. -/
theorem Goes.bounded (h : Goes i work v u turn)
    (hlooked : ∀ branch,
      Execution.Looked work (v.crowd.run i).announced v.execution branch u.execution →
        measure u.execution + 1 ≤ measure v.execution) :
    Turn.ownSteps [turn] + (u.subscribing + measure u.execution) ≤
      v.subscribing + measure v.execution := by
  cases h with
  | aside _ hlistener hexecution =>
      simp [Turn.ownSteps, Turn.isOwn, subscribing, hlistener, hexecution]
  | subscribed _ hnone hsome hexecution =>
      simp [Turn.ownSteps, Turn.isOwn, subscribing, hnone, hsome, hexecution]
  | looked hown _ hlistener hsome hlook =>
      have hless := hlooked _ hlook
      simp only [Turn.ownSteps, List.countP_singleton, hown, subscribing, hlistener]
      simp only [hsome, if_true]
      omega

/-- Once the stop is published an execution is over after so many steps of its own. -/
theorem Kept.owed_run (h : Kept i handle work v) (hpublished : v.IsPublished i)
    (hafter : Steps (Step i handle work) v turns u) :
    Turn.ownSteps turns + u.owed ≤ v.owed := by
  induction hafter with
  | refl => simp [Turn.ownSteps]
  | @head v w u turn turns hstep _ ih =>
      have hgoes := h.goes hstep
      have hfirst : Turn.ownSteps [turn] + w.owed ≤ v.owed := hgoes.bounded fun _ hlooked => by
        rw [hpublished] at hlooked
        exact hlooked.owed
      have hrest := ih (h.step hstep) (hgoes.published h.sound hpublished)
      rw [Turn.ownSteps_cons]
      omega

/-- If the work is ever done, an execution is over after so many steps of its own. -/
theorem Kept.left_run {last : Nat} (h : Kept i handle work v) (hlast : (work last).isSome)
    (hafter : Steps (Step i handle work) v turns u) :
    Turn.ownSteps turns + u.left last ≤ v.left last := by
  induction hafter with
  | refl => simp [Turn.ownSteps]
  | @head v w u turn turns hstep _ ih =>
      have hfirst : Turn.ownSteps [turn] + w.left last ≤ v.left last :=
        (h.goes hstep).bounded fun _ hlooked => hlooked.left h.fits hlast
      have hrest := ih (h.step hstep)
      rw [Turn.ownSteps_cons]
      omega

/-- Once the stop is published only polls that are owed are made. -/
theorem Kept.spare_run (h : Kept i handle work v) (hpublished : v.IsPublished i)
    (hafter : Steps (Step i handle work) v turns u) :
    u.execution.polls + u.execution.spare ≤ v.execution.polls + v.execution.spare := by
  induction hafter with
  | refl => exact Nat.le_refl _
  | @head v w u turn turns hstep _ ih =>
      have hgoes := h.goes hstep
      refine Nat.le_trans (ih (h.step hstep) (hgoes.published h.sound hpublished)) ?_
      cases hgoes with
      | aside _ _ hexecution => exact Nat.le_of_eq (by rw [hexecution])
      | subscribed _ _ _ hexecution => exact Nat.le_of_eq (by rw [hexecution])
      | looked _ _ _ _ hlooked =>
          rw [hpublished] at hlooked
          exact hlooked.spare

/-- An execution that is not over can go on, whatever the others do. -/
theorem Kept.goes_on (h : Kept i handle work v) (hrunning : ¬v.IsOver) :
    ∃ turn u, turn.isOwn = true ∧ Step i handle work v turn u := by
  cases hlistener : v.listener with
  | none => exact ⟨_, _, rfl, .subscribe hlistener⟩
  | some listener =>
      by_cases hstarting : v.execution = .starting
      · have hover : v.crowd.pool.isOver listener = some (v.crowd.pool.state i).isOver := by
          simp [RunHandles.isOver, h.watching listener hlistener]
        exact ⟨_, _, rfl, .ask hlistener hstarting hover⟩
      · obtain ⟨branch, hawaits⟩ := Execution.exists_awaits fun polls result hfinished =>
          hrunning ⟨polls, result, hfinished⟩
        exact ⟨_, _, rfl, .look hstarting hawaits⟩

omit [DecidableEq ι] in
theorem isOver_of_owed (h : v.owed = 0) : v.IsOver :=
  Execution.owed_eq_zero.mp (Nat.eq_zero_of_add_eq_zero_left h)

/-! ## The race -/

/-- What holds of an execution at a moment `p`, and at any later moment `q` to which the turns
lead. -/
structure Settles (i handle : Nat) (work : Nat → Option (Except Failure α))
    (p : Venture ι (Except Failure α)) (turns : List (Turn ι))
    (q : Venture ι (Except Failure α)) : Prop where
  /-- It answers with what the work has come to, unchanged, or fails because of the stop. -/
  answers : ∀ polls result, q.execution = .finished polls result →
    Execution.Yields work polls (Execution.answer result) ∨
      ∃ f, Execution.answer result = .error f ∧ f.isStopped = true
  /-- It fails so only in a run that is stopped. -/
  stopped : ∀ polls result f, q.execution = .finished polls result →
    Execution.answer result = .error f → f.isStopped = true → (q.crowd.run i).running = false
  /-- If the stop that cleared the flag is back before it begins, the work is never polled, and
  nothing but that failure can come of it. -/
  refused : p.listener = none → (∃ c, p.crowd.HasReturned c true) →
    q.execution.polls = 0 ∧ ∀ polls result, q.execution = .finished polls result → result = none
  /-- A look that finds the work done ends it with what the work has come to. -/
  delivers : ∀ own r, work q.execution.polls = some own →
    Step i handle work q (.looked .work) r →
    r.execution = .finished (q.execution.polls + 1) (some own)
  /-- If the work is ever done, it is over after at most so many steps of its own. -/
  ends : ∀ last, (work last).isSome → Turn.ownSteps turns + q.left last ≤ p.left last
  /-- Once the stop is published, it is over after at most so many. -/
  returns : p.IsPublished i → Turn.ownSteps turns + q.owed ≤ p.owed
  /-- Until it is over, a further one is always possible. -/
  goes_on : ¬q.IsOver → ∃ turn r, turn.isOwn = true ∧ Step i handle work q turn r
  /-- A round that begins after the stop is published is the last one, and polls the work at most
  once. -/
  last_round : p.IsPublished i → ∀ n, p.execution = .racing n → 2 ≤ Turn.ownSteps turns →
    q.IsOver ∧ q.execution.polls ≤ n + 1
  /-- So the work is polled at most once more, unless the stop was published within a round whose
  listener had been asked before. -/
  polled_once : p.IsPublished i → (∀ n, p.execution ≠ .halfway .work n) →
    q.execution.polls ≤ p.execution.polls + 1
  /-- Then that round polls it, and perhaps the next one. -/
  polled_twice : p.IsPublished i → q.execution.polls ≤ p.execution.polls + 2

omit [DecidableEq ι] in
/-- It has come to the result of the work, unchanged, or to nothing in a run that is stopped. -/
theorem Kept.answers {work : Nat → Option (Except Failure α)} {v : Venture ι (Except Failure α)}
    {polls : Nat} {result : Option (Except Failure α)} (h : Kept i handle work v)
    (hfinished : v.execution = .finished polls result) :
    Execution.Yields work polls (Execution.answer result) ∨
      result = none ∧ (v.crowd.run i).running = false := by
  cases result with
  | some own =>
      have hfits := h.fits
      rw [hfinished] at hfits
      exact .inl hfits
  | none =>
      exact .inr ⟨rfl, h.sound.latched.stopped_of_announced (h.stopped polls hfinished)⟩

/-- An execution comes to the result of its work or to the stop of the run, whatever calls are
made on the run state and however their steps are mixed with its looks. -/
theorem settles_of_run {work : Nat → Option (Except Failure α)}
    {p q : Venture ι (Except Failure α)} {before after : List (Turn ι)} {pool : RunHandles}
    {now : Duration} (halive : i < pool.states.length) (hfresh : pool.state i = .fresh)
    (hheld : pool.target handle = some i)
    (hown : ∀ n f, work n = some (.error f) → f.isStopped = false)
    (hbefore : Steps (Step i handle work) (start pool now) before p)
    (hafter : Steps (Step i handle work) p after q) : Settles i handle work p after q := by
  have hp := kept_of_run halive hfresh hheld hbefore
  have hq := kept_of_run halive hfresh hheld (hbefore.trans hafter)
  have hspare : p.IsPublished i →
      q.execution.polls ≤ p.execution.polls + p.execution.spare := fun hpublished =>
    Nat.le_trans (Nat.le_add_right _ _) (hp.spare_run hpublished hafter)
  constructor
  case answers =>
    intro polls result hfinished
    rcases hq.answers hfinished with hyields | ⟨rfl, -⟩
    · exact .inl hyields
    · exact .inr ⟨.stopped, rfl, rfl⟩
  case stopped =>
    intro polls result f hfinished hanswer hf
    rcases hq.answers hfinished with ⟨n, -, hwork, -⟩ | ⟨-, hstopped⟩
    · -- The work itself does not fail because of the stop.
      rw [hanswer] at hwork
      simp [hown n f hwork] at hf
    · exact hstopped
  case refused =>
    rintro hnone ⟨c, hc⟩
    have hpublished : p.IsPublished i := hp.sound.latched.announced.mpr ⟨c, hc.stops⟩
    have hzero : q.execution.polls = 0 := by
      have hle := hspare hpublished
      rw [hp.listening hnone] at hle
      exact Nat.le_zero.mp hle
    refine ⟨hzero, fun polls result hfinished => ?_⟩
    rcases hq.answers hfinished with ⟨n, rfl, -⟩ | ⟨hresult, -⟩
    · -- A result would have taken a poll.
      rw [hfinished] at hzero
      cases hzero
    · exact hresult
  case delivers =>
    intro own r hwork hstep
    cases hstep with
    | look _ hawaits => simp [Execution.look, hawaits, hwork]
  case ends => exact fun last hlast => hp.left_run hlast hafter
  case returns => exact fun hpublished => hp.owed_run hpublished hafter
  case goes_on => exact hq.goes_on
  case last_round =>
    intro hpublished n hracing hsteps
    have howed := hp.owed_run hpublished hafter
    have hle := hspare hpublished
    rw [hracing] at hle
    have hsome := hp.isSome_listener (by simp [hracing])
    -- Two looks were owed, and both have been taken.
    have htwo : p.owed = 2 := by simp [owed, subscribing, hsome, hracing, Execution.owed]
    exact ⟨isOver_of_owed (by omega), hle⟩
  case polled_once =>
    intro hpublished hnot
    exact Nat.le_trans (hspare hpublished) (Nat.add_le_add_left (Execution.spare_le_one hnot) _)
  case polled_twice =>
    intro hpublished
    exact Nat.le_trans (hspare hpublished) (Nat.add_le_add_left Execution.spare_le_two _)

/-! ## A stop within a round -/

/-- Work that is done when it is polled for the second time. -/
def delayed (n : Nat) : Option (Except Failure Unit) := if n = 0 then none else some (.ok ())

/-- A round asks the listener; then the run is stopped, and the listeners are told. -/
def overture : List (Turn Unit) :=
  [.subscribed, .asked, .looked .listener, .aside (some ((), .begin)), .aside (some ((), .lock)),
    .aside (some ((), .look)), .aside (some ((), .leave)), .aside (some ((), .notify)),
    .aside (some ((), .announce))]

/-- The stop is published, and the round goes on with the work. -/
def torn : Venture Unit (Except Failure Unit) :=
  ⟨⟨⟨[⟨false, true⟩], [some 0], [0]⟩, .zero, .free, fun _ => some (.stopping (.finished true))⟩,
    some 0, .halfway .work 0⟩

/-- The round polls the work, and so does the next one before it asks the listener. -/
def coda : List (Turn Unit) := [.looked .work, .looked .work]

/-- The work was done by then. -/
def settled : Venture Unit (Except Failure Unit) :=
  { torn with execution := .finished 2 (some (.ok ())) }

theorem overture_run : Steps (Step 0 0 delayed) (start .single .zero) overture torn := by
  suffices ∃ p, Steps (Step 0 0 delayed) (start .single .zero) overture p ∧ p = torn by
    obtain ⟨p, hp, rfl⟩ := this
    exact hp
  have hhandle : (RunHandles.single.listen 0).2.target 0 = some 0 := rfl
  have hfresh : (RunCall.stopping .testing).Fresh := rfl
  exact ⟨_, .head (.subscribe rfl) <| .head (.ask rfl rfl rfl) <| .head (.look nofun rfl) <|
    .head (.aside (.begin hhandle rfl hfresh) rfl) <| .head (.aside (.lock rfl rfl rfl) rfl) <|
    .head (.aside (.look rfl rfl) rfl) <| .head (.aside (.leave rfl) rfl) <|
    .head (.aside (.notify rfl nofun) rfl) <| .head (.aside (.announce rfl) rfl) <| .refl _, rfl⟩

theorem coda_run : Steps (Step 0 0 delayed) torn coda settled :=
  .head (.look nofun rfl) (.single (.look nofun rfl))

/-- The stop is published within a round, and still the work wins the race. -/
theorem settles_of_run_torn :
    0 < RunHandles.single.states.length ∧ RunHandles.single.state 0 = .fresh ∧
      RunHandles.single.target 0 = some 0 ∧
      (∀ n f, delayed n = some (.error f) → f.isStopped = false) ∧
      Steps (Step 0 0 delayed) (start .single .zero) overture torn ∧
      Steps (Step 0 0 delayed) torn coda settled ∧ Settles 0 0 delayed torn coda settled := by
  have hown : ∀ n f, delayed n = some (.error f) → f.isStopped = false := by
    intro n f hn
    unfold delayed at hn
    split at hn <;> cases hn
  exact ⟨by decide, rfl, rfl, hown, overture_run, coda_run,
    settles_of_run (by decide) rfl rfl hown overture_run coda_run⟩

/-- So the work may well be polled twice after the stop was published. -/
theorem polled_twice_torn :
    Steps (Step 0 0 delayed) (start .single .zero) overture torn ∧ torn.IsPublished 0 ∧
      Steps (Step 0 0 delayed) torn coda settled ∧
      ¬settled.execution.polls ≤ torn.execution.polls + 1 :=
  ⟨overture_run, rfl, coda_run, by decide⟩

end Venture
end LoadMonitor
