import LoadMonitor.Proofs.Client.Accounting
import LoadMonitor.Proofs.Url.Stored

/-!
# Which answers make a read fail

A read fails on the statuses that blame the client or the server and on bodies that it cannot
decode, and on no other complete answer. Statuses that are neither successes nor errors are
therefore let through: what they carry is taken for data if it can be decoded, and since nearly
every field of what is read may be missing, an empty record is enough.
-/

namespace LoadMonitor.Traffic

variable {ι : Type} [DecidableEq ι] {i : Nat} {t u : Traffic ι} {l : Landing} {r : HttpRequest}
  {response : HttpResponse}

/-- A read tells its caller of a failure exactly if the status of the answer is an error or its
body cannot be decoded. -/
theorem Step.refuses_iff (h : Step i t (.landed l) u) (hreads : l.call.Reads)
    (hending : l.ending = some (.ok (r, .ok response))) (hcomplete : response.complete = true) :
    l.reply.IsError ↔
      (400 ≤ response.status ∧ response.status < 600) ∨ ¬l.call.Decodes response.body := by
  have hreply : l.reply.IsError ↔ l.call.Fails (.ok (r, .ok response)) := by
    rw [h.answers.read hreads, hending]
    simp
  rw [hreply, ServiceCall.fails_answered, isErrorStatus_iff]
  simp [hreads, hcomplete]

/-- The one record that a read leaves says the same as its reply. -/
theorem Step.record_of_read (h : Step i t (.landed l) u) (hreads : l.call.Reads)
    (hcompleted : l.completed = true) :
    ∃ record, u.session.report = t.session.report ++ [record] ∧ l.Recorded record ∧
      (record.failed = true ↔ l.reply.IsError) := by
  have hne : l.call ≠ .checkLive := by
    intro hlive
    rw [hlive] at hreads
    exact hreads
  obtain ⟨added, hreport, hadded⟩ := h.report hne
  rw [List.filter_cons_of_pos hcompleted, List.filter_nil] at hadded
  obtain ⟨record, rest, hrecorded, hrest, rfl⟩ := List.forall₂_cons_left_iff.mp hadded
  obtain rfl := List.forall₂_nil_left_iff.mp hrest
  have hcancelled : l.ending ≠ none := Option.isSome_iff_ne_none.mp hcompleted
  refine ⟨record, hreport, hrecorded, ?_⟩
  rw [hrecorded.failed, h.answers.read hreads]
  simp [hcancelled]

/-- A read of a complete answer fails, and is on record as failed, exactly if the status of the
answer is an error or its body cannot be decoded. -/
theorem read_fails_iff (h : Step i t (.landed l) u) (hreads : l.call.Reads)
    (hending : l.ending = some (.ok (r, .ok response))) (hcomplete : response.complete = true) :
    (l.reply.IsError ↔
      (400 ≤ response.status ∧ response.status < 600) ∨ ¬l.call.Decodes response.body) ∧
    ∃ record, u.session.report = t.session.report ++ [record] ∧ l.Recorded record ∧
      (record.failed = true ↔ l.reply.IsError) := by
  have hcompleted : l.completed = true := by simp [Landing.completed, hending]
  exact ⟨h.refuses_iff hreads hending hcomplete, h.record_of_read hreads hcompleted⟩

/-! ## Two answers with the same body -/

/-- A record without any field. -/
def emptyRecord : Json.Bytes := [0x7b, 0x7d]

/-- The request for the health of the service. -/
def question : HttpRequest where
  method := .get
  url := { nearby.base with path := .segments ["monitoring".toList, "health".toList] }
  body := none

theorem request_health : nearby.request .health = .ok question := rfl

/-- A read whose answer, a record without any field, is there from the beginning. -/
def reading (status : Nat) (polls? : Option Nat) : Flight :=
  ⟨.health, fun _ => some (.ok ⟨status, emptyRecord, none⟩), polls?⟩

theorem reading_work (status : Nat) (polls? : Option Nat) (polls : Nat) :
    (reading status polls?).work nearby polls =
      some (.ok (question, .ok ⟨status, emptyRecord, none⟩)) := by
  simp [Flight.work, reading, Client.exchange, request_health]

/-- How such a read comes back with the given reply. -/
def told (status : Nat) (reply : Reply) : Landing where
  flight := reading status (some 0)
  elapsed := .ofMillis 3
  announced := false
  offered := some (.ok (question, .ok ⟨status, emptyRecord, none⟩))
  ending := some (.ok (question, .ok ⟨status, emptyRecord, none⟩))
  reply := reply

/-- What such a read comes to. -/
def closed (status : Nat) : Reply × Session :=
  Session.close ⟨nearby, [question], []⟩ .health (.ofMillis 3) (told status .done).ending

/-- The read on its way. -/
def awaiting (status : Nat) : Traffic Unit :=
  ⟨.start .single .zero, .start nearby, some (reading status (some 0))⟩

theorem awaiting_run (status : Nat) :
    Steps (Step 0) (start .single .zero nearby) [.departed .health, .raced] (awaiting status) :=
  .head (@Step.depart Unit _ 0 _ _ (reading status none).arrival rfl) <|
  .head (@Step.race Unit _ 0 ⟨.start .single .zero, .start nearby, some (reading status none)⟩
    (reading status none) true 0 rfl rfl) <| .refl _

theorem told_step (status : Nat) :
    Step 0 (awaiting status) (.landed (told status (closed status).1))
      (⟨.start .single .zero, (closed status).2, none⟩ : Traffic Unit) := by
  have hadvance : (reading status (some 0)).advance nearby
      ⟨(awaiting status).announced 0, true⟩ = .finished 1 (told status .done).ending := by
    show (Execution.underWay (some 0)).advance ((reading status (some 0)).work nearby) _ = _
    rw [Execution.advance_racing, reading_work]
    rfl
  have hoffered : (reading status (some 0)).offered nearby = (told status .done).offered :=
    reading_work status (some 0) 0
  have hland := @Step.land Unit _ 0 (awaiting status) (reading status (some 0)) true 1 _
    (.ofMillis 3) rfl hadvance
  have hasked : (reading status (some 0)).asked (awaiting status).session 1 =
      ⟨nearby, [question], []⟩ := by
    simp [Flight.asked, Session.asked, Session.sent, awaiting, reading, Session.start,
      request_health]
  have hclient : (awaiting status).session.client = nearby := rfl
  rw [hasked, hclient, hoffered] at hland
  exact hland

/-- The empty record can be decoded. -/
theorem decodes_emptyRecord : ServiceCall.health.Decodes emptyRecord :=
  ⟨⟨.unknown, "unknown", .zero⟩, by decide⟩

/-- A status that blames the client is a failure, although the body could be decoded. -/
theorem read_fails_iff_missing :
    Step 0 (awaiting 404) (.landed (told 404 (closed 404).1))
      (⟨.start .single .zero, (closed 404).2, none⟩ : Traffic Unit) ∧
    (told 404 (closed 404).1).call.Reads ∧
    (told 404 (closed 404).1).ending = some (.ok (question, .ok ⟨404, emptyRecord, none⟩)) ∧
    (told 404 (closed 404).1).reply.IsError ∧
    ∃ record, (closed 404).2.report = [record] ∧ record.failed = true := by
  obtain ⟨hfails, record, hreport, -, hfailed⟩ :=
    read_fails_iff (told_step 404) trivial rfl rfl
  have herror := hfails.mpr (.inl ⟨by decide, by decide⟩)
  exact ⟨told_step 404, trivial, rfl, herror, record, hreport, hfailed.mpr herror⟩

/-- The address of that client is one that is accepted. -/
theorem ofBase_nearby : Client.ofBase "http://localhost" = .ok nearby := by
  have hne : "localhost".toList ≠ [] := by decide
  have hhost : Url.readDomain "localhost".toList = .ok (.name "localhost".toList) :=
    Url.readDomain_of_isStored (forall_mem_of_all (by decide)) hne (by decide) (by decide)
  have hparse := Url.parse_host hne (forall_mem_of_all (by decide)) hhost
  have htext : "http://localhost" = String.ofList ("http://".toList ++ "localhost".toList) := rfl
  rw [Client.ofBase, htext, hparse]
  rfl

/-- A status that is no success is not always a failure: an answer that offers a choice of
addresses and carries an empty record is taken for data. -/
theorem choices_not_refused :
    ¬∀ (c : Client) (ms : List (Sighting Unit)) (t u : Traffic Unit) (l : Landing)
      (r : HttpRequest) (response : HttpResponse),
      Client.ofBase "http://localhost" = .ok c →
      Steps (Step 0) (start .single .zero c) ms t → Step 0 t (.landed l) u →
      l.call.Reads → l.ending = some (.ok (r, .ok response)) → response.complete = true →
      ¬(200 ≤ response.status ∧ response.status < 300) → l.reply.IsError := by
  intro hrefused
  have hstep := told_step 300
  have herror : (told 300 (closed 300).1).reply.IsError :=
    hrefused nearby _ _ _ _ question ⟨300, emptyRecord, none⟩ ofBase_nearby (awaiting_run 300) hstep
      trivial rfl rfl (by decide)
  rcases (hstep.refuses_iff trivial rfl rfl).mp herror with hstatus | hbody
  · exact absurd hstatus.1 (by decide)
  · exact hbody decodes_emptyRecord

end LoadMonitor.Traffic
