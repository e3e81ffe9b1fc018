import LoadMonitor.Proofs.Client.Traffic

/-!
# How calls end

When a call fails, told without regard to how its answer is taken apart: no request, no answer,
an error status, or a body that a call which reads cannot make use of. A call that comes to an
end leaves one record, which says whether it failed; one that is cancelled leaves none.
-/

namespace LoadMonitor

theorem isErrorStatus_iff (status : Nat) :
    isErrorStatus status = true ↔ 400 ≤ status ∧ status < 600 := by
  simp only [isErrorStatus, isClientError, isServerError, Bool.or_eq_true, Bool.and_eq_true,
    decide_eq_true_eq]
  omega

namespace ServiceCall

/-- The call hands the body of the answer on to its caller. -/
def Reads : ServiceCall → Prop
  | health => True
  | metrics => True
  | alerts => True
  | _ => False

/-- The body can be read as what the call expects. -/
def Decodes (body : Json.Bytes) : ServiceCall → Prop
  | health => ∃ health, healthFormat.ofBytes body = .ok health
  | metrics => ∃ metrics, metricsFormat.ofBytes body = .ok metrics
  | alerts => ∃ alerts, alertsFormat.ofBytes body = .ok alerts
  | _ => True

/-- The call fails, other than by being cancelled. -/
inductive Fails (call : ServiceCall) : Exchange → Prop where
  /-- No request could be made, for want of an address or for its scheme. -/
  | unmade {error : CallError} : Fails call (.error error)
  | unanswered {r : HttpRequest} {fault : TransportFault} : Fails call (.ok (r, .error fault))
  | refused {r : HttpRequest} {response : HttpResponse} :
      400 ≤ response.status → response.status < 600 → Fails call (.ok (r, .ok response))
  | cutShort {r : HttpRequest} {response : HttpResponse} :
      call.Reads → response.complete = false → Fails call (.ok (r, .ok response))
  | unreadable {r : HttpRequest} {response : HttpResponse} :
      call.Reads → ¬call.Decodes response.body → Fails call (.ok (r, .ok response))

/-- An answer makes a call fail by its status, or by its body if the call reads it. -/
theorem fails_answered {call : ServiceCall} {r : HttpRequest} {response : HttpResponse} :
    call.Fails (.ok (r, .ok response)) ↔ isErrorStatus response.status = true ∨
      call.Reads ∧ (response.complete = false ∨ ¬call.Decodes response.body) := by
  rw [isErrorStatus_iff]
  constructor
  · intro h
    cases h with
    | refused hlower hupper => exact .inl ⟨hlower, hupper⟩
    | cutShort hreads hcomplete => exact .inr ⟨hreads, .inl hcomplete⟩
    | unreadable hreads hbody => exact .inr ⟨hreads, .inr hbody⟩
  · rintro (⟨hlower, hupper⟩ | ⟨hreads, hcomplete | hbody⟩)
    · exact .refused hlower hupper
    · exact .cutShort hreads hcomplete
    · exact .unreadable hreads hbody

/-- What is made of an answer fails exactly when the call does. -/
def Judges {α : Type} (call : ServiceCall)
    (read : HttpRequest → HttpOutcome → Except CallError α) : Prop :=
  ∀ r outcome, (∃ error, read r outcome = .error error) ↔ call.Fails (.ok (r, outcome))

end ServiceCall

/-! ## What is made of an answer -/

namespace Client

open ServiceCall

variable {α : Type} {decode : Json.Bytes → Json.Reading α} {call : ServiceCall}

theorem judges_decoded (hreads : call.Reads)
    (hdecodes : ∀ body, call.Decodes body ↔ ∃ a, decode body = .ok a) :
    call.Judges (decoded decode) := by
  intro r outcome
  cases outcome with
  | error fault => exact ⟨fun _ => .unanswered, fun _ => ⟨.notAnswered r fault, rfl⟩⟩
  | ok response =>
      simp only [fails_answered, decoded_ok]
      cases hstatus : isErrorStatus response.status with
      | true => simp
      | false =>
          cases hbroken : response.broken with
          | some fault => simp [HttpResponse.complete, hbroken, hreads]
          | none =>
              cases hbody : decode response.body with
              | ok a => simp [HttpResponse.complete, hbroken, hdecodes, hbody]
              | error cause => simp [HttpResponse.complete, hbroken, hdecodes, hbody, hreads]

theorem judges_health : ServiceCall.health.Judges (decoded healthFormat.ofBytes) :=
  judges_decoded trivial fun _ => Iff.rfl

theorem judges_metrics : ServiceCall.metrics.Judges (decoded metricsFormat.ofBytes) :=
  judges_decoded trivial fun _ => Iff.rfl

theorem judges_alerts : ServiceCall.alerts.Judges (decoded alertsFormat.ofBytes) :=
  judges_decoded trivial fun _ => Iff.rfl

theorem judges_acknowledged (hreads : ¬call.Reads) : call.Judges acknowledged := by
  intro r outcome
  cases outcome with
  | error fault => exact ⟨fun _ => .unanswered, fun _ => ⟨.notAnswered r fault, rfl⟩⟩
  | ok response =>
      rw [fails_answered]
      cases hstatus : isErrorStatus response.status with
      | true => simp [acknowledged, accepted, hstatus, bind, Except.bind]
      | false =>
          simp [acknowledged, accepted, hstatus, hreads, bind, Except.bind, pure, Except.pure]

end Client

/-! ## What becomes of a call -/

/-- The reply tells of a failure. -/
def Reply.IsError : Reply → Prop
  | live answer => ∃ error, answer = .error error
  | health answer => ∃ error, answer = .error error
  | metrics answer => ∃ error, answer = .error error
  | alerts answer => ∃ error, answer = .error error
  | done => False

namespace Session

open ServiceCall

variable {α : Type} {call : ServiceCall}

/-- A call that was not cancelled leaves one record. -/
theorem concluded_completed (s : Session) (elapsed : Duration) (exchange : Exchange)
    {read : HttpRequest → HttpOutcome → Except CallError α} (hjudges : call.Judges read) :
    ∃ failed, (s.concluded call read elapsed (some exchange)).2 = s.recorded call failed elapsed ∧
      (failed = true ↔ call.Fails exchange) ∧
      ((∃ error, (s.concluded call read elapsed (some exchange)).1 = .error error) ↔
        call.Fails exchange) := by
  cases exchange with
  | error error =>
      exact ⟨true, rfl, ⟨fun _ => .unmade, fun _ => rfl⟩,
        ⟨fun _ => .unmade, fun _ => ⟨.failed error, rfl⟩⟩⟩
  | ok made =>
      obtain ⟨r, outcome⟩ := made
      rw [← hjudges r outcome]
      cases hread : read r outcome with
      | ok a =>
          have hconcluded : s.concluded call read elapsed (some (.ok (r, outcome))) =
              (.ok a, s.recorded call false elapsed) := by
            simp [concluded, Except.bind, hread]
          exact ⟨false, by rw [hconcluded], by simp, by simp [hconcluded]⟩
      | error error =>
          have hconcluded : s.concluded call read elapsed (some (.ok (r, outcome))) =
              (.error (.failed error), s.recorded call true elapsed) := by
            simp [concluded, Except.bind, hread]
          exact ⟨true, by rw [hconcluded], by simp, by simp [hconcluded]⟩

theorem swallowed_session (answer : Except SessionError Unit × Session) :
    (swallowed call answer).2 = answer.2 := by
  obtain ⟨answer, s⟩ := answer
  cases answer <;> rfl

/-- How a call other than the liveness check ends if it is not cancelled: it leaves one record, a
read tells its caller of the failure that is on record, and a write returns whatever happened. -/
theorem close_completed (s : Session) (elapsed : Duration) (exchange : Exchange)
    (hcall : call ≠ .checkLive) :
    (∃ failed, (s.close call elapsed (some exchange)).2 = s.recorded call failed elapsed ∧
      (failed = true ↔ call.Fails exchange)) ∧
    (call.Reads → ((s.close call elapsed (some exchange)).1.IsError ↔ call.Fails exchange)) ∧
    (¬call.Reads → (s.close call elapsed (some exchange)).1 = .done) := by
  -- A write throws its answer away, but not what is on record.
  have hwrite : ¬call.Reads → ∃ failed,
      (swallowed call (s.concluded call Client.acknowledged elapsed (some exchange))).2 =
        s.recorded call failed elapsed ∧ (failed = true ↔ call.Fails exchange) := by
    intro hreads
    obtain ⟨failed, hsession, hfailed, -⟩ :=
      s.concluded_completed elapsed exchange (Client.judges_acknowledged hreads)
    exact ⟨failed, (swallowed_session _).trans hsession, hfailed⟩
  cases call with
  | checkLive => exact absurd rfl hcall
  | health =>
      obtain ⟨failed, hsession, hfailed, hanswer⟩ :=
        s.concluded_completed elapsed exchange Client.judges_health
      exact ⟨⟨failed, hsession, hfailed⟩, fun _ => hanswer, fun hreads => absurd trivial hreads⟩
  | metrics =>
      obtain ⟨failed, hsession, hfailed, hanswer⟩ :=
        s.concluded_completed elapsed exchange Client.judges_metrics
      exact ⟨⟨failed, hsession, hfailed⟩, fun _ => hanswer, fun hreads => absurd trivial hreads⟩
  | alerts =>
      obtain ⟨failed, hsession, hfailed, hanswer⟩ :=
        s.concluded_completed elapsed exchange Client.judges_alerts
      exact ⟨⟨failed, hsession, hfailed⟩, fun _ => hanswer, fun hreads => absurd trivial hreads⟩
  | postLogs endpoint records => exact ⟨hwrite nofun, nofun, fun _ => rfl⟩
  | postQuery sql => exact ⟨hwrite nofun, nofun, fun _ => rfl⟩

/-- A call that is cancelled leaves no record. -/
theorem close_cancelled (s : Session) (call : ServiceCall) (elapsed : Duration) :
    (s.close call elapsed none).2 = s ∧
    (call.Reads → (s.close call elapsed none).1.IsError) ∧
    (call ≠ .checkLive → ¬call.Reads → (s.close call elapsed none).1 = .done) := by
  cases call with
  | checkLive => exact ⟨rfl, nofun, fun hcall => absurd rfl hcall⟩
  | health => exact ⟨rfl, fun _ => ⟨.stopped, rfl⟩, fun _ hreads => absurd trivial hreads⟩
  | metrics => exact ⟨rfl, fun _ => ⟨.stopped, rfl⟩, fun _ hreads => absurd trivial hreads⟩
  | alerts => exact ⟨rfl, fun _ => ⟨.stopped, rfl⟩, fun _ hreads => absurd trivial hreads⟩
  | postLogs endpoint records => exact ⟨rfl, nofun, fun _ _ => rfl⟩
  | postQuery sql => exact ⟨rfl, nofun, fun _ _ => rfl⟩

/-- The client stays the same. -/
theorem close_client (s : Session) (call : ServiceCall) (elapsed : Duration)
    (ending : Option Exchange) : (s.close call elapsed ending).2.client = s.client := by
  cases ending with
  | none => rw [(s.close_cancelled call elapsed).1]
  | some exchange =>
      by_cases hcall : call = .checkLive
      · subst hcall
        cases exchange with
        | ok made => rfl
        | error error => cases error <;> rfl
      · obtain ⟨⟨failed, hrecorded, -⟩, -⟩ := s.close_completed elapsed exchange hcall
        rw [hrecorded]
        rfl

end Session
end LoadMonitor
