import LoadMonitor.Proofs.Client.Accounting

/-!
# The record of a liveness check

A liveness check that is not cancelled leaves a record of its own making. It makes one on every
way out but the first: if no address can be formed below the base address, it gives up before
there is anything to record. A base address without structure, as that of a mailbox, is accepted
when the client is made, so this way out is open.
-/

namespace LoadMonitor

/-! ## Requests below a base address -/

namespace Client

variable {c : Client}

/-- Below a base address with structure every request has an address. -/
theorem request_structured (h : c.base.canBeBase = true) (call : ServiceCall) :
    (∃ r, c.request call = .ok r) ∨ ∃ r, c.request call = .error (.schemeNotAllowed r) := by
  obtain ⟨url, hurl⟩ : ∃ url, c.endpoint call.path = .ok url := by
    unfold Url.canBeBase at h
    unfold endpoint Url.join
    split at h
    · next list hpath => exact ⟨_, by rw [hpath]⟩
    · cases h
  simp only [request, hurl, bind, Except.bind]
  split
  · exact .inl ⟨_, rfl⟩
  · exact .inr ⟨_, rfl⟩

/-- Below any other none has. -/
theorem request_unstructured (h : c.base.canBeBase = false) (call : ServiceCall) :
    c.request call = .error (.invalidEndpoint call.path .notABase) := by
  have hurl : c.endpoint call.path = .error (.invalidEndpoint call.path .notABase) := by
    unfold Url.canBeBase at h
    unfold endpoint Url.join
    split at h
    · cases h
    · next text hpath => rw [hpath]
  rw [request, hurl]
  rfl

end Client

/-! ## Ways out of the check -/

/-- The record is that of a liveness check, and says whether it failed. -/
structure Landing.Checked (l : Landing) (r : OperationRecord) : Prop where
  operation : r.operation = "check_live"
  failed : r.failed = true ↔ l.reply.IsError
  elapsed : r.elapsed = some l.elapsed

namespace Session

variable {s : Session}

theorem checked_structured (h : s.client.base.canBeBase = true) (elapsed : Duration)
    (outcome : HttpOutcome) :
    ∃ failed log answer,
      s.checked elapsed ((s.client.request .checkLive).map fun r => (r, outcome)) =
        (answer, log, s.recorded .checkLive failed elapsed) ∧
      (failed = true ↔ ∃ error, answer = .error error) := by
  rcases Client.request_structured h .checkLive with ⟨r, hr⟩ | ⟨r, hr⟩
  · rw [hr]
    refine ⟨_, _, Client.liveness r outcome, rfl, ?_⟩
    cases Client.liveness r outcome with
    | ok live => simp
    | error error => simp
  · rw [hr]
    exact ⟨true, _, _, rfl, by simp⟩

theorem checked_unstructured (h : s.client.base.canBeBase = false) (elapsed : Duration)
    (outcome : HttpOutcome) :
    ∃ log error, s.checked elapsed ((s.client.request .checkLive).map fun r => (r, outcome)) =
      (.error error, log, s) := by
  rw [Client.request_unstructured h]
  exact ⟨_, _, rfl⟩

end Session

/-! ## Checks on record -/

namespace Traffic

variable {ι : Type} [DecidableEq ι] {i : Nat} {t u : Traffic ι} {l : Landing}

/-- A check that is not cancelled comes to what became of its own request. -/
theorem Step.checked (h : Step i t (.landed l) u) (hcall : l.call = .checkLive)
    (hcompleted : l.completed = true) :
    ∃ (s : Session) (outcome : HttpOutcome),
      s.client = t.session.client ∧ s.report = t.session.report ∧
      let ending := s.checked l.elapsed ((s.client.request .checkLive).map fun r => (r, outcome))
      l.reply = .live ending.1 ∧ u.session = ending.2.2 := by
  obtain ⟨exchange, hending⟩ := Option.isSome_iff_exists.mp hcompleted
  have hown := h.answers.own
  obtain ⟨polls, -, -, -, hresolves, hclose, -, -⟩ := h.landed
  obtain ⟨outcome, rfl⟩ : ∃ outcome,
      exchange = (t.session.client.request .checkLive).map fun r => (r, outcome) := by
    rw [hending] at hresolves
    rw [← hcall]
    generalize hoffered : l.offered = offered at hresolves
    cases hresolves
    exact ((hown exchange).mp hoffered).eq_map
  refine ⟨l.flight.asked t.session polls, outcome, l.flight.asked_client ..,
    l.flight.asked_report .., ?_⟩
  rw [hcall, hending] at hclose
  rw [l.flight.asked_client]
  exact ⟨(congrArg Prod.fst hclose).symm, (congrArg Prod.snd hclose).symm⟩

/-- A liveness check that is not cancelled leaves one record, which says whether it failed, exactly
if addresses can be formed below the base address; otherwise it fails without any record. -/
theorem check_recorded_iff (h : Step i t (.landed l) u) (hcall : l.call = .checkLive)
    (hcompleted : l.completed = true) :
    ((∃ record, u.session.report = t.session.report ++ [record] ∧ l.Checked record) ↔
      t.session.client.base.canBeBase = true) ∧
    (t.session.client.base.canBeBase = false →
      l.reply.IsError ∧ u.session.report = t.session.report) := by
  obtain ⟨s, outcome, hclient, hreport, hreply, hsession⟩ := h.checked hcall hcompleted
  rw [← hclient, ← hreport, hreply, hsession]
  cases hbase : s.client.base.canBeBase with
  | true =>
      obtain ⟨failed, log, answer, hchecked, hfailed⟩ :=
        s.checked_structured hbase l.elapsed outcome
      rw [hchecked] at hreply ⊢
      refine ⟨iff_of_true ⟨_, rfl, rfl, ?_, rfl⟩ rfl, nofun⟩
      rw [hreply]
      exact hfailed
  | false =>
      obtain ⟨log, error, hchecked⟩ :=
        s.checked_unstructured hbase l.elapsed outcome
      rw [hchecked]
      refine ⟨iff_of_false ?_ nofun, fun _ => ⟨⟨error, rfl⟩, rfl⟩⟩
      rintro ⟨record, happend, -⟩
      simp at happend

/-! ## Two base addresses that no request can be sent to -/

/-- A check whose request, if there is one, is closed without an answer. -/
def checkup (polls? : Option Nat) : Flight := ⟨.checkLive, fun _ => some (.error .closed), polls?⟩

def upshot (c : Client) : Exchange := (c.request .checkLive).map fun r => (r, .error .closed)

theorem checkup_work (c : Client) (polls? : Option Nat) (polls : Nat) :
    (checkup polls?).work c polls = some (upshot c) := by
  unfold Flight.work Client.exchange upshot checkup
  cases c.request .checkLive <;> rfl

/-- The session in which that check is called, with its request sent. -/
def called (c : Client) : Session := (Session.start c).asked .checkLive 1

/-- How the check comes back. -/
def checkedOut (c : Client) : Landing where
  flight := checkup (some 0)
  elapsed := .ofMillis 3
  announced := false
  offered := some (upshot c)
  ending := some (upshot c)
  reply := ((called c).close .checkLive (.ofMillis 3) (some (upshot c))).1

/-- The check on its way. -/
def onCheckup (c : Client) : Traffic Unit :=
  ⟨.start .single .zero, .start c, some (checkup (some 0))⟩

/-- The check is over. -/
def afterCheckup (c : Client) : Traffic Unit :=
  ⟨.start .single .zero, ((called c).close .checkLive (.ofMillis 3) (some (upshot c))).2, none⟩

theorem onCheckup_run (c : Client) :
    Steps (Step 0) (start .single .zero c) [.departed .checkLive, .raced] (onCheckup c) :=
  .head (@Step.depart Unit _ 0 _ _ (checkup none).arrival rfl) <|
  .head (@Step.race Unit _ 0 ⟨.start .single .zero, .start c, some (checkup none)⟩
    (checkup none) true 0 rfl rfl) <| .refl _

theorem checkup_step (c : Client) :
    Step 0 (onCheckup c) (.landed (checkedOut c)) (afterCheckup c) := by
  have hadvance : (checkup (some 0)).advance c ⟨(onCheckup c).announced 0, true⟩ =
      .finished 1 (some (upshot c)) := by
    show (Execution.underWay (some 0)).advance ((checkup (some 0)).work c) _ = _
    rw [Execution.advance_racing, checkup_work]
    rfl
  have hoffered : (checkup (some 0)).offered c = some (upshot c) := checkup_work c (some 0) 0
  have hland := @Step.land Unit _ 0 (onCheckup c) (checkup (some 0)) true 1 _ (.ofMillis 3) rfl
    hadvance
  have hclient : (onCheckup c).session.client = c := rfl
  rw [hclient, hoffered] at hland
  exact hland

/-- A client for a service that is spoken to in another way: requests have an address, but are
not sent. -/
def elsewhere : Client :=
  ⟨⟨"ftp".toList, some ⟨[], none, .name "localhost".toList, none⟩, .segments [[]], none, none⟩⟩

/-- The check fails below that address, and is on record. -/
theorem check_recorded_iff_elsewhere :
    Step 0 (onCheckup elsewhere) (.landed (checkedOut elsewhere)) (afterCheckup elsewhere) ∧
    (checkedOut elsewhere).call = .checkLive ∧ (checkedOut elsewhere).completed = true ∧
    ∃ record, (afterCheckup elsewhere).session.report = [record] ∧
      (checkedOut elsewhere).Checked record :=
  ⟨checkup_step elsewhere, rfl, rfl,
    (check_recorded_iff (checkup_step elsewhere) rfl rfl).1.mpr rfl⟩

/-- A client for a mailbox. -/
def mailbox : Client := ⟨⟨"mailto".toList, none, .unstructured "x/".toList, none, none⟩⟩

theorem ofBase_mailbox : Client.ofBase "mailto:x" = .ok mailbox := by decide

/-- A liveness check of a mailbox fails and leaves no record. -/
theorem mailbox_check_unrecorded :
    ¬∀ (c : Client) (ms : List (Sighting Unit)) (t u : Traffic Unit) (l : Landing),
      Client.ofBase "mailto:x" = .ok c →
      Steps (Step 0) (start .single .zero c) ms t → Step 0 t (.landed l) u →
      l.call = .checkLive → l.completed = true →
      ∃ record, u.session.report = t.session.report ++ [record] ∧ l.Checked record := by
  intro hrecorded
  obtain ⟨record, hreport, -⟩ := hrecorded mailbox _ _ _ _ ofBase_mailbox
    (onCheckup_run mailbox) (checkup_step mailbox) rfl rfl
  cases hreport

end Traffic
end LoadMonitor
