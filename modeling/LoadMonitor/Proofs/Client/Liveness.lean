import LoadMonitor.Proofs.Client.Accounting

/-!
# What a liveness check tells

The answer of a liveness check is settled by what was there in its last round: an answer of the
service with its status, no answer, or the stop of the run. If the service has answered and the
stop has been announced by then, either may decide.
-/

namespace LoadMonitor

/-! ## Verdicts -/

/-- The service has answered with the status. -/
def Answered (offered : Option Exchange) (status : Nat) : Prop :=
  ∃ r response, offered = some (.ok (r, .ok response)) ∧ response.status = status

/-- There was no answer to wait for any more: no request could be made, or none was answered. -/
def Unanswered (offered : Option Exchange) : Prop :=
  (∃ error, offered = some (.error error)) ∨ ∃ r fault, offered = some (.ok (r, .error fault))

/-- What a liveness check may tell, given what was there in its last round. -/
inductive Verdict (announced : Bool) (offered : Option Exchange) :
    Except PrecheckError Unit → Prop where
  | live : Answered offered 200 → Verdict announced offered (.ok ())
  | unhealthy {status : Nat} :
      Answered offered status → status ≠ 200 →
      Verdict announced offered (.error (.unhealthy status))
  | unreachable {url reason : String} :
      Unanswered offered → Verdict announced offered (.error (.unreachable url reason))
  | cancelled : announced = true → Verdict announced offered (.error .cancelled)

/-- A check that comes to an end tells a verdict. -/
theorem Session.checkConcluded_verdict (s : Session) (elapsed : Duration) {announced : Bool}
    {offered ending : Option Exchange} (h : Execution.Resolves announced offered ending) :
    Verdict announced offered (s.checkConcluded elapsed ending).1 := by
  cases h with
  | cancel hannounced => exact .cancelled hannounced
  | @finish exchange =>
      cases exchange with
      | error error =>
          have hnone : Unanswered (some (.error error)) := .inl ⟨error, rfl⟩
          cases error <;> exact .unreachable hnone
      | ok made =>
          obtain ⟨r, outcome⟩ := made
          cases outcome with
          | error fault => exact .unreachable (.inr ⟨r, fault, rfl⟩)
          | ok response =>
              have hanswered : Answered (some (.ok (r, .ok response))) response.status :=
                ⟨r, response, rfl, rfl⟩
              show Verdict announced _ (if response.status = 200 then _ else _)
              split
              · next hstatus => exact .live (hstatus ▸ hanswered)
              · next hstatus => exact .unhealthy hanswered hstatus

theorem Answered.unique {offered : Option Exchange} {status status' : Nat}
    (h : Answered offered status) (h' : Answered offered status') : status = status' := by
  obtain ⟨r, response, rfl, rfl⟩ := h
  obtain ⟨r', response', hoffered, rfl⟩ := h'
  cases hoffered
  rfl

theorem Answered.ne_none {offered : Option Exchange} {status : Nat} (h : Answered offered status) :
    offered ≠ none := by
  obtain ⟨r, response, rfl, -⟩ := h
  nofun

theorem Unanswered.ne_none {offered : Option Exchange} (h : Unanswered offered) :
    offered ≠ none := by
  rintro rfl
  rcases h with ⟨error, herror⟩ | ⟨r, fault, hfault⟩
  · cases herror
  · cases hfault

theorem Answered.not_unanswered {offered : Option Exchange} {status : Nat}
    (h : Answered offered status) : ¬Unanswered offered := by
  obtain ⟨r, response, rfl, -⟩ := h
  rintro (⟨error, herror⟩ | ⟨r', fault, hfault⟩)
  · cases herror
  · cases hfault

namespace Verdict

variable {announced : Bool} {offered : Option Exchange} {answer : Except PrecheckError Unit}

/-- The stop decides only where nothing else does, or as one of two. -/
theorem cancelled_iff (h : Verdict announced offered answer)
    (huntied : announced = false ∨ offered = none) :
    answer = .error .cancelled ↔ announced = true := by
  constructor
  · rintro rfl
    cases h with
    | cancelled hannounced => exact hannounced
  · intro hannounced
    obtain rfl : offered = none := by simpa [hannounced] using huntied
    cases h with
    | live hanswered => exact absurd rfl hanswered.ne_none
    | unhealthy hanswered _ => exact absurd rfl hanswered.ne_none
    | unreachable hnone => exact absurd rfl hnone.ne_none
    | cancelled _ => rfl

/-- Where the service decides, the stop does not. -/
theorem not_announced (hoffered : offered ≠ none)
    (huntied : announced = false ∨ offered = none) : announced ≠ true := by
  rcases huntied with hannounced | hnone
  · simp [hannounced]
  · exact absurd hnone hoffered

theorem live_iff (h : Verdict announced offered answer)
    (huntied : announced = false ∨ offered = none) : answer = .ok () ↔ Answered offered 200 := by
  constructor
  · rintro rfl
    cases h with
    | live hanswered => exact hanswered
  · intro hanswered
    cases h with
    | live _ => rfl
    | unhealthy hanswered' hstatus => exact absurd (hanswered'.unique hanswered) hstatus
    | unreachable hnone => exact absurd hnone hanswered.not_unanswered
    | cancelled hannounced => exact absurd hannounced (not_announced hanswered.ne_none huntied)

theorem unhealthy_iff (h : Verdict announced offered answer)
    (huntied : announced = false ∨ offered = none) (status : Nat) :
    answer = .error (.unhealthy status) ↔ Answered offered status ∧ status ≠ 200 := by
  constructor
  · rintro rfl
    cases h with
    | unhealthy hanswered hstatus => exact ⟨hanswered, hstatus⟩
  · rintro ⟨hanswered, hstatus⟩
    cases h with
    | live hanswered' => exact absurd (hanswered.unique hanswered') hstatus
    | unhealthy hanswered' _ => rw [hanswered'.unique hanswered]
    | unreachable hnone => exact absurd hnone hanswered.not_unanswered
    | cancelled hannounced => exact absurd hannounced (not_announced hanswered.ne_none huntied)

theorem unreachable_iff (h : Verdict announced offered answer)
    (huntied : announced = false ∨ offered = none) :
    (∃ url reason, answer = .error (.unreachable url reason)) ↔ Unanswered offered := by
  constructor
  · rintro ⟨url, reason, rfl⟩
    cases h with
    | unreachable hnone => exact hnone
  · intro hnone
    cases h with
    | live hanswered => exact absurd hnone hanswered.not_unanswered
    | unhealthy hanswered _ => exact absurd hnone hanswered.not_unanswered
    | unreachable _ => exact ⟨_, _, rfl⟩
    | cancelled hannounced => exact absurd hannounced (not_announced hnone.ne_none huntied)

end Verdict

/-! ## Liveness checks in a run that may be stopped -/

/-- What holds of the answer of a liveness check that has come back as `l`, at a moment `t`, in
a run in which `t₀` was an earlier moment. Answer and stop are tied if both were there in the
last round. -/
structure Prechecked {ι : Type} [DecidableEq ι] (i : Nat) (c : Client) (t₀ t : Traffic ι)
    (l : Landing) (answer : Except PrecheckError Unit) : Prop where
  /-- Whichever of answer and stop has decided, it tells what it had to. -/
  verdict : Verdict l.announced l.offered answer
  live : l.announced = false ∨ l.offered = none → (answer = .ok () ↔ Answered l.offered 200)
  unhealthy : l.announced = false ∨ l.offered = none → ∀ status,
    answer = .error (.unhealthy status) ↔ Answered l.offered status ∧ status ≠ 200
  unreachable : l.announced = false ∨ l.offered = none →
    ((∃ url reason, answer = .error (.unreachable url reason)) ↔ Unanswered l.offered)
  cancelled : l.announced = false ∨ l.offered = none →
    (answer = .error .cancelled ↔ l.announced = true)
  /-- What was offered is what had come of the check's own request by the poll of that round. -/
  own : t.flight = some l.flight ∧
    ∀ exchange, l.offered = some exchange ↔ l.flight.Brings c exchange
  /-- The stop is there only in a run that is stopped, and at the latest when a stop has returned
  with success. -/
  stopped : l.announced = true → (t.crowd.run i).running = false
  heard : (∃ stop, t.crowd.HasReturned stop true) → l.announced = true
  /-- A call comes back in the very round in which its answer, or the stop, is there. -/
  lands : ∀ f, t₀.flight = some f →
    t₀.announced i = true ∨ (f.offered t₀.session.client).isSome →
    (∃ l u, Traffic.Step i t₀ (.landed l) u) ∧ ∀ u, ¬Traffic.Step i t₀ .raced u
  /-- A check that is called after such a return is cancelled. -/
  declined : (∃ stop, t₀.crowd.HasReturned stop true) → t₀.flight = none →
    answer = .error .cancelled

namespace Traffic

variable {ι : Type} [DecidableEq ι] {i : Nat} {c : Client} {t₀ t u : Traffic ι} {l : Landing}
  {ms ns : List (Sighting ι)} {answer : Except PrecheckError Unit}

theorem prechecked_of_run {pool : RunHandles} {now : Duration} (halive : i < pool.states.length)
    (hfresh : pool.state i = .fresh) (hbefore : Steps (Step i) (start pool now c) ms t₀)
    (hafter : Steps (Step i) t₀ ns t) (hland : Step i t (.landed l) u)
    (hcall : l.call = .checkLive) (hreply : l.reply = .live answer) :
    Prechecked i c t₀ t l answer := by
  have hkept := kept_of_run halive hfresh (hbefore.trans hafter)
  obtain ⟨polls, hflight, hannounced, -, hresolves, hclose, -, -⟩ := hland.landed
  have hanswer : answer =
      ((l.flight.asked t.session polls).checkConcluded l.elapsed l.ending).1 := by
    have hlive := congrArg Prod.fst hclose
    rw [hcall, hreply] at hlive
    exact (Reply.live.inj hlive).symm
  have hverdict : Verdict l.announced l.offered answer :=
    hanswer ▸ (l.flight.asked t.session polls).checkConcluded_verdict l.elapsed hresolves
  constructor
  case verdict => exact hverdict
  case live => exact hverdict.live_iff
  case unhealthy => exact hverdict.unhealthy_iff
  case unreachable => exact hverdict.unreachable_iff
  case cancelled => exact hverdict.cancelled_iff
  case own => exact ⟨hflight, hkept.same ▸ hland.answers.own⟩
  case stopped =>
    intro hstop
    exact hkept.sound.latched.stopped_of_announced (hannounced.symm.trans hstop)
  case heard =>
    rintro ⟨stop, hstop⟩
    rw [hannounced]
    exact hkept.sound.latched.announced.mpr ⟨stop, hstop.stops⟩
  case lands => exact fun f hf hready => lands hf hready
  case declined =>
    intro hstop hidle
    -- The stop had been announced when the check was called, and has been ever since.
    have hbegun := kept_of_run halive hfresh hbefore
    rw [hanswer, (hbegun.quiet hstop hidle hafter).declines hland]
    rfl

end Traffic
end LoadMonitor
