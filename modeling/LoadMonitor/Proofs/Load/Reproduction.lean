import LoadMonitor.Proofs.Load.Logbook
import LoadMonitor.Proofs.Run.Solo
import LoadMonitor.Random.Scripted

/-!
# Runs from one seed

Two runs of a plan that begin with the same random source submit the same things for as long as
their phases go through the same numbers of iterations. Whatever else differs between them, the
clock, the delays, the stops and what becomes of the submissions, is never drawn upon.
-/

namespace LoadMonitor

section

variable {ρ : Type} [RandomSource ρ] {probability : Binary64}

/-! ## One phase twice -/

namespace Stint

variable {phase : Phase} {source source' source'' : ρ} {stint stint' : Stint}

/-- What one of the two has done is the beginning of what the other has. -/
theorem Part.comparable (h : stint.Part probability phase source)
    (h' : stint'.Part probability phase source) :
    stint.submissions <+: stint'.submissions ∨ stint'.submissions <+: stint.submissions := by
  obtain ⟨its, _, hdrawn, -, hpart⟩ := h
  obtain ⟨its', _, hdrawn', -, hpart'⟩ := h'
  have hdet := Phase.draws_functional (ρ := ρ) probability phase
  rcases Nat.le_total its.length its'.length with hle | hle
  · obtain ⟨more, rfl⟩ := hdet.isPrefix hdrawn hdrawn' hle
    rw [List.flatten_append] at hpart'
    exact List.prefix_or_prefix_of_prefix (hpart.trans (List.prefix_append _ _)) hpart'
  · obtain ⟨more, rfl⟩ := hdet.isPrefix hdrawn' hdrawn hle
    rw [List.flatten_append] at hpart
    exact List.prefix_or_prefix_of_prefix hpart (hpart'.trans (List.prefix_append _ _))

/-- A phase that has begun no more iterations than another one has done has submitted no more. -/
theorem Part.isPrefix (h : stint.Part probability phase source)
    (h' : stint'.Whole probability phase source source')
    (hle : stint.iterations ≤ stint'.iterations) : stint.submissions <+: stint'.submissions := by
  obtain ⟨its, _, hdrawn, hits, hpart⟩ := h
  obtain ⟨its', hdrawn', hits', hwhole⟩ := h'
  have hdet := Phase.draws_functional (ρ := ρ) probability phase
  obtain ⟨more, rfl⟩ := hdet.isPrefix hdrawn hdrawn' (by omega)
  rw [hwhole, List.flatten_append]
  exact hpart.trans (List.prefix_append _ _)

/-- The number of iterations determines what a phase does and where it leaves the source. -/
theorem Whole.unique (h : stint.Whole probability phase source source')
    (h' : stint'.Whole probability phase source source'')
    (hsame : stint.iterations = stint'.iterations) : stint = stint' ∧ source' = source'' := by
  obtain ⟨its, hdrawn, hits, hsubmissions⟩ := h
  obtain ⟨its', hdrawn', hits', hsubmissions'⟩ := h'
  have hdet := Phase.draws_functional (ρ := ρ) probability phase
  obtain ⟨rfl, rfl⟩ := hdet.unique hdrawn hdrawn' (by omega)
  cases stint
  cases stint'
  simp_all

/-- A phase without iterations does nothing. -/
theorem Whole.idle (h : stint.Whole probability phase source source')
    (hnone : stint.iterations = 0) : stint.submissions = [] ∧ source' = source := by
  obtain ⟨its, hdrawn, hits, hsubmissions⟩ := h
  obtain rfl : its = [] := List.length_eq_zero_iff.mp (by omega)
  cases hdrawn
  exact ⟨hsubmissions, rfl⟩

end Stint

/-! ## One plan twice -/

/-- What the phases of a plan do one after the other: each is whole before the next one begins,
the last one may be cut, and otherwise it is told where the source is left. -/
inductive Told (probability : Binary64) : LoadPlan → ρ → List Stint → Option ρ → Prop where
  | ended {plan : LoadPlan} {source : ρ} : Told probability plan source [] (some source)
  | cut {phase : Phase} {rest : LoadPlan} {source : ρ} {stint : Stint} :
      stint.Part probability phase source → Told probability (phase :: rest) source [stint] none
  | next {phase : Phase} {rest : LoadPlan} {source source' : ρ} {stint : Stint}
      {stints : List Stint} {last : Option ρ} :
      stint.Whole probability phase source source' → Told probability rest source' stints last →
      Told probability (phase :: rest) source (stint :: stints) last

namespace Told

variable {plan : LoadPlan} {source : ρ} {stints stints' : List Stint} {last last' : Option ρ}

/-- Phases that are over come first. -/
theorem of_follow {done : List (Phase × Stint)} {source' : ρ} {rest : LoadPlan}
    (hdone : Stint.Follow probability source done source')
    (h : Told probability rest source' stints last) :
    Told probability (done.map Prod.fst ++ rest) source (done.map Prod.snd ++ stints) last := by
  induction hdone with
  | refl => exact h
  | head hwhole _ ih => exact .next hwhole (ih h)

@[simp] theorem iterationsAt_zero (stint : Stint) (stints : List Stint) :
    Stint.iterationsAt (stint :: stints) 0 = stint.iterations := rfl

@[simp] theorem iterationsAt_succ (stint : Stint) (stints : List Stint) (n : Nat) :
    Stint.iterationsAt (stint :: stints) (n + 1) = Stint.iterationsAt stints n := rfl

@[simp] theorem upto_nil (n : Nat) : Stint.upto [] n = [] := by simp [Stint.upto]

@[simp] theorem upto_succ (stint : Stint) (stints : List Stint) (n : Nat) :
    Stint.upto (stint :: stints) (n + 1) = stint.submissions ++ Stint.upto stints n := by
  simp [Stint.upto]

/-- Up to the first phase in which they differ in their iterations, one of two runs has submitted
the beginning of what the other has. -/
theorem comparable {phases : Nat} (h : Told probability plan source stints last)
    (h' : Told probability plan source stints' last')
    (hsame : ∀ n < phases, Stint.iterationsAt stints n = Stint.iterationsAt stints' n) :
    Stint.upto stints (phases + 1) <+: Stint.upto stints' (phases + 1) ∨
      Stint.upto stints' (phases + 1) <+: Stint.upto stints (phases + 1) := by
  induction h generalizing stints' phases with
  | ended => exact .inl (by simp)
  | @cut phase rest source stint hpart =>
      cases h' with
      | ended => exact .inr (by simp)
      | cut hpart' => simpa using hpart.comparable hpart'
      | @next _ _ _ _ stint' _ _ hwhole' _ =>
          cases phases with
          | zero => simpa [Stint.upto] using hpart.comparable hwhole'.part
          | succ phases =>
              -- The cut phase has begun as many iterations as the whole one, and none follows it.
              have hfirst : stint.iterations = stint'.iterations := hsame 0 (by omega)
              have hprefix := hpart.isPrefix hwhole' (Nat.le_of_eq hfirst)
              exact .inl (by simpa using hprefix.trans (List.prefix_append _ _))
  | @next phase rest source source' stint stints last hwhole _ ih =>
      cases h' with
      | ended => exact .inr (by simp)
      | @cut _ _ _ stint' hpart' =>
          cases phases with
          | zero => simpa [Stint.upto] using hwhole.part.comparable hpart'
          | succ phases =>
              have hfirst : stint.iterations = stint'.iterations := hsame 0 (by omega)
              have hprefix := hpart'.isPrefix hwhole (Nat.le_of_eq hfirst.symm)
              exact .inr (by simpa using hprefix.trans (List.prefix_append _ _))
      | @next _ _ _ _ stint' stints' _ hwhole' hrest' =>
          cases phases with
          | zero => simpa [Stint.upto] using hwhole.part.comparable hwhole'.part
          | succ phases =>
              obtain ⟨rfl, rfl⟩ := hwhole.unique hwhole' (hsame 0 (by omega))
              have hlater : ∀ n < phases,
                  Stint.iterationsAt stints n = Stint.iterationsAt stints' n :=
                fun n hn => hsame (n + 1) (by omega)
              have hrest := ih hrest' hlater
              simpa only [upto_succ stint, List.prefix_append_right_inj] using hrest

/-- Phases without iterations do nothing. -/
theorem idle {source' : ρ} (h : Told probability plan source stints (some source'))
    (hnone : ∀ n, Stint.iterationsAt stints n = 0) :
    stints.flatMap Stint.submissions = [] ∧ source' = source := by
  generalize hlast : some source' = last at h
  induction h with
  | ended => exact ⟨rfl, Option.some.inj hlast⟩
  | cut => cases hlast
  | next hwhole _ ih =>
      obtain ⟨hsubmissions, rfl⟩ := hwhole.idle (hnone 0)
      obtain ⟨hrest, rfl⟩ := ih (fun n => hnone (n + 1)) hlast
      exact ⟨by simp [hsubmissions, hrest], rfl⟩

/-- Two runs whose phases go through the same numbers of iterations are the same. -/
theorem unique {source₁ source₂ : ρ} (h : Told probability plan source stints (some source₁))
    (h' : Told probability plan source stints' (some source₂))
    (hsame : ∀ n, Stint.iterationsAt stints n = Stint.iterationsAt stints' n) :
    stints.flatMap Stint.submissions = stints'.flatMap Stint.submissions ∧ source₁ = source₂ := by
  generalize hlast : some source₁ = last at h
  induction h generalizing stints' with
  | ended =>
      -- The other run has no iterations either, but it may have begun some phases.
      obtain ⟨hnone, rfl⟩ := h'.idle fun n => by simpa [Stint.iterationsAt] using (hsame n).symm
      exact ⟨hnone.symm, Option.some.inj hlast⟩
  | cut => cases hlast
  | next hwhole hrest ih =>
      cases h' with
      | ended =>
          subst hlast
          exact (Told.next hwhole hrest).idle fun n => by simpa [Stint.iterationsAt] using hsame n
      | next hwhole' hrest' =>
          obtain ⟨rfl, rfl⟩ := hwhole.unique hwhole' (hsame 0)
          obtain ⟨hsubmissions, rfl⟩ := ih hrest' (fun n => hsame (n + 1)) hlast
          exact ⟨by simp [hsubmissions], rfl⟩

end Told

/-! ## The load driver -/

namespace LoadDriver

variable {pacing : Pacing} {patience : Nat} {plan : LoadPlan} {source : ρ} {run : RunState}
  {moves : List Move} {b : Logbook}

/-- At every position the logbook tells what the phases of the plan have done; when the driver
is back, also where it has left the source. -/
theorem Keeps.told {s : LoadDriver ρ} (h : s.Keeps probability plan source b) :
    ∃ last, Told probability plan source b.stints last ∧
      ∀ outcome source', s = .finished outcome source' → last = some source' := by
  cases s with
  | choosing | announcing =>
      obtain ⟨done, hdone, rfl, rfl⟩ := h
      exact ⟨_, Told.of_follow hdone .ended, nofun⟩
  | running number phase rest state =>
      obtain ⟨done, source', stint, hdone, rfl, rfl, hstate⟩ := h
      exact ⟨_, Told.of_follow hdone (.cut hstate.part), nofun⟩
  | noting number rest progress =>
      obtain ⟨done, phase, source', stint, hdone, rfl, rfl, hwhole⟩ := h
      exact ⟨_, Told.of_follow hdone (.next hwhole .ended), nofun⟩
  | concluding source' =>
      obtain ⟨done, hdone, ⟨rest, rfl⟩, rfl⟩ := h
      exact ⟨_, Told.of_follow hdone .ended, nofun⟩
  | finished outcome source' =>
      obtain ⟨done, hdone, ⟨rest, rfl⟩, rfl⟩ := h
      exact ⟨_, Told.of_follow hdone .ended, by rintro _ _ ⟨⟩; rfl⟩

/-- The logbook of every run, whoever stops it and whatever it is answered. -/
theorem keeps_of_run {s : Solo (LoadDriver ρ)}
    (h : Steps (Solo.Step (effect pacing patience)) ⟨run, start plan source⟩ moves s) :
    s.state.Keeps pacing.queryProbability plan source (.ofEvents (Move.events moves)) ∧
      (Logbook.ofEvents (Move.events moves)).submissions =
        Event.submissions (Move.events moves) := by
  refine ((effect_only pacing patience).imp Event.OfLoad.plain).invariant
    (P := fun _ events s => s.Keeps pacing.queryProbability plan source (.ofEvents events) ∧
      (Logbook.ofEvents events).submissions = Event.submissions events) h
    ⟨Keeps.proceed (.refl _) rfl, rfl⟩ ?_ id
  rintro run events a b e event ⟨hkeeps, hsubmissions⟩ heffect htakes -
  rw [Logbook.ofEvents_append, hkeeps.submissions_enter heffect htakes, hsubmissions,
    Event.submissions_append]
  refine ⟨hkeeps.step rfl heffect htakes, congrArg _ ?_⟩
  cases hevent : event.submission? <;> simp [Event.submissions, hevent]

/-- Take two runs of a plan from one random source that put queries equally often. Up to the
first phase in which they begin different numbers of iterations, one has submitted the beginning
of what the other has. If they do not differ in any phase, they have submitted the same by the
time they are over, and leave the source in the same state. -/
theorem reproducible {pacing' : Pacing} {patience' : Nat} {run' : RunState} {moves' : List Move}
    {s s' : Solo (LoadDriver ρ)} (hquery : pacing.queryProbability = pacing'.queryProbability)
    (h : Steps (Solo.Step (effect pacing patience)) ⟨run, start plan source⟩ moves s)
    (h' : Steps (Solo.Step (effect pacing' patience')) ⟨run', start plan source⟩ moves' s') :
    let b := Logbook.ofEvents (Move.events moves)
    let b' := Logbook.ofEvents (Move.events moves')
    (∀ phases, (∀ n < phases, b.iterations n = b'.iterations n) →
      b.upto (phases + 1) <+: b'.upto (phases + 1) ∨
        b'.upto (phases + 1) <+: b.upto (phases + 1)) ∧
    (∀ outcome outcome' last last', s.state = finished outcome last →
      s'.state = finished outcome' last' → (∀ n, b.iterations n = b'.iterations n) →
      Event.submissions (Move.events moves) = Event.submissions (Move.events moves') ∧
        last = last') := by
  intro b b'
  obtain ⟨hkeeps, hsubmissions⟩ := keeps_of_run h
  obtain ⟨hkeeps', hsubmissions'⟩ := keeps_of_run h'
  rw [← hquery] at hkeeps'
  obtain ⟨left, htold, hleft⟩ := hkeeps.told
  obtain ⟨left', htold', hleft'⟩ := hkeeps'.told
  refine ⟨fun phases hsame => htold.comparable htold' hsame, ?_⟩
  intro outcome outcome' last last' hover hover' hsame
  -- A run that is over has told all, so no part of the plan is left to be told.
  rw [hleft outcome last hover] at htold
  rw [hleft' outcome' last' hover'] at htold'
  rw [← hsubmissions, ← hsubmissions']
  exact htold.unique htold' hsame

end LoadDriver
end

/-! ## A calm run and a disturbed one -/

namespace LoadDriver

/-- A plan of a single phase. -/
def brief : LoadPlan := [.normal (.ofSecs 1)]

/-- A source that begins with sixty zeros. -/
def zeros : ScriptedWords := ⟨List.replicate 60 0, 0⟩

/-- A query after every batch. -/
def curious (normalDelay : Duration) : Pacing :=
  { Pacing.byDefault with normalDelay, queryProbability := .infinity false }

set_option maxRecDepth 10000 in
/-- Nobody stops the run, and its clock was started long ago. -/
theorem calm_run : ∃ moves last,
    Steps (Solo.Step (effect (curious (.ofSecs 7)) 3)) ⟨.fresh, start brief zeros⟩ moves
      ⟨.fresh, finished .completed last⟩ ∧
    (Logbook.ofEvents (Move.events moves)).stints.map Stint.iterations = [1] := by
  refine ⟨_, _, .head (.own rfl (.isRunning true) rfl) <| .head (.own rfl .print trivial) <|
    .head (.own rfl (.clock (.ofSecs 90)) trivial) <|
    .head (.own rfl (.clock (.ofSecs 90)) trivial) <|
    .head (.own rfl (.isRunning true) rfl) <| .head (.own rfl .submit trivial) <|
    .head (.own rfl .submit trivial) <| .head (.own rfl (.pause true) rfl) <|
    .head (.own rfl (.clock (.ofSecs 97)) trivial) <| .head (.own rfl .log trivial) <|
    .head (.own rfl (.isRunning true) rfl) <| .refl _, rfl⟩

set_option maxRecDepth 10000 in
/-- The run is stopped between the two submissions of its only iteration. -/
theorem disturbed_run : ∃ moves last,
    Steps (Solo.Step (effect (curious .zero) 1)) ⟨.fresh, start brief zeros⟩ moves
      ⟨⟨false, true⟩, finished .interrupted last⟩ ∧
    (Logbook.ofEvents (Move.events moves)).stints.map Stint.iterations = [1] := by
  refine ⟨_, _, .head (.own rfl (.isRunning true) rfl) <| .head (.own rfl .print trivial) <|
    .head (.own rfl (.clock .zero) trivial) <| .head (.own rfl (.clock .zero) trivial) <|
    .head (.own rfl (.isRunning true) rfl) <| .head (.own rfl .submit trivial) <|
    .head .stop <| .head (.own rfl .submit trivial) <| .head (.own rfl (.pause false) rfl) <|
    .head (.own rfl .log trivial) <| .head (.own rfl (.isRunning false) rfl) <| .refl _, rfl⟩

/-- The stop does not change what is submitted by the iteration in which it comes. -/
theorem reproducible_disturbed : ∃ moves moves' last last',
    (curious (.ofSecs 7)).queryProbability = (curious .zero).queryProbability ∧
    Steps (Solo.Step (effect (curious (.ofSecs 7)) 3)) ⟨.fresh, start brief zeros⟩ moves
      ⟨.fresh, finished .completed last⟩ ∧
    Steps (Solo.Step (effect (curious .zero) 1)) ⟨.fresh, start brief zeros⟩ moves'
      ⟨⟨false, true⟩, finished .interrupted last'⟩ ∧
    Event.submissions (Move.events moves) = Event.submissions (Move.events moves') ∧
    last = last' := by
  obtain ⟨moves, last, hcalm, hits⟩ := calm_run
  obtain ⟨moves', last', hdisturbed, hits'⟩ := disturbed_run
  have hsame : ∀ n, (Logbook.ofEvents (Move.events moves)).iterations n =
      (Logbook.ofEvents (Move.events moves')).iterations n := by
    intro n
    simp only [Logbook.iterations, Stint.iterationsAt, ← List.getElem?_map, hits, hits']
  have hquery : (curious (.ofSecs 7)).queryProbability = (curious .zero).queryProbability := rfl
  obtain ⟨hsubmissions, hlast⟩ :=
    (reproducible hquery hcalm hdisturbed).2 _ _ last last' rfl rfl hsame
  exact ⟨moves, moves', last, last', hquery, hcalm, hdisturbed, hsubmissions, hlast⟩

end LoadDriver
end LoadMonitor
