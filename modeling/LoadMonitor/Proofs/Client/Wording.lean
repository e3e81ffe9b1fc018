import LoadMonitor.Client.Basic
import LoadMonitor.Proofs.Json.Wording
import LoadMonitor.Proofs.Url.Printable

/-!
# What failed reads say

Every message about a failed read is put together from fixed words, from addresses, from numbers and
from what was wrong with the answer. None of it holds a control, so the service has no way to
smuggle one into a message.
-/

namespace LoadMonitor

/-! ## Fixed words and addresses -/

theorem Url.IsPrintable.tame_text {u : Url} (h : u.IsPrintable) : Tame u.text := by
  refine Tame.ofList fun c hc => ?_
  have hrange := Url.isControl_eq_false_iff.mp (h.chars c hc)
  rw [isObeyed_eq_false_iff]
  omega

/-- Taking credentials out of an address leaves the rest of it. -/
theorem HttpRequest.isPrintable_target {r : HttpRequest} (h : r.url.IsPrintable) :
    r.target.IsPrintable := by
  unfold target
  split
  · refine { h with authority := ?_ }
    intro a ha
    obtain ⟨given, hgiven, rfl⟩ := Option.map_eq_some_iff.mp ha
    exact ⟨Url.printable_nil, nofun, (h.authority given hgiven).host⟩
  · exact h

theorem HttpMethod.tame_text (m : HttpMethod) : Tame m.text := by
  cases m <;> exact .of_all (by decide)

theorem ServiceCall.tame_path (call : ServiceCall) : Tame call.path := by
  unfold path
  split
  case h_5 endpoint _ => cases endpoint <;> exact .of_all (by decide)
  all_goals exact .of_all (by decide)

theorem UrlError.tame_message (e : UrlError) : Tame e.message := by
  cases e <;> exact .of_all (by decide)

theorem tame_of_lookup {table : List (Nat × String)} {n : Nat} {phrase : String}
    (hall : table.all (fun row => row.2.toList.all fun c => isObeyed c = false) = true)
    (h : table.lookup n = some phrase) : Tame phrase := by
  obtain ⟨before, after, rfl, -⟩ := List.lookup_eq_some_iff.mp h
  have hrow := List.all_eq_true.mp hall (n, phrase) (List.mem_append_right _ List.mem_cons_self)
  exact .of_all hrow

theorem tame_statusText (status : Nat) : Tame (statusText status) := by
  refine .append (.append (tame_nat status) (.of_all (by decide))) ?_
  cases hphrase : statusPhrase? status with
  | none => exact .of_all (by decide)
  | some phrase =>
      unfold statusPhrase? at hphrase
      exact tame_of_lookup (by decide +kernel) hphrase

theorem tame_statusError {status : Nat} {url : String} (h : Tame url) :
    Tame (statusError status url) := by
  have hside : Tame (if isClientError status then "client" else "server") := by
    split <;> exact .of_all (by decide)
  unfold statusError
  exact .append (.append (.append (.append (.append (.append (.of_all (by decide)) hside)
    (.of_all (by decide))) (tame_statusText status)) (.of_all (by decide))) h) (.of_all (by decide))

/-! ## Faults of the connection -/

/-- The reason of the operating system, if there is one, has no controls. -/
def TransportFault.IsTame : TransportFault → Prop
  | noConnection reason => Tame reason
  | _ => True

theorem TransportFault.IsTame.chain {fault : TransportFault} (h : fault.IsTame) :
    ∀ text ∈ fault.chain, Tame text := by
  cases fault with
  | noConnection reason =>
      have hreason : Tame reason := h
      unfold TransportFault.chain
      rw [List.forall_mem_cons, List.forall_mem_cons, List.forall_mem_singleton]
      exact ⟨.append (.of_all (by decide)) hreason, .append (.of_all (by decide)) hreason, hreason⟩
  | closed => exact List.forall_mem_singleton.mpr (.of_all (by decide))
  | timedOut => exact List.forall_mem_singleton.mpr (.of_all (by decide))

theorem TransportFault.IsTame.message {fault : TransportFault} (h : fault.IsTame) :
    Tame fault.message := by
  cases fault with
  | noConnection reason => exact .append (.of_all (by decide)) h
  | _ => exact .of_all (by decide)

theorem BodyFault.tame_message (fault : BodyFault) : Tame fault.message := by
  cases fault <;> exact .of_all (by decide)

theorem BodyFault.tame_chain (fault : BodyFault) : ∀ text ∈ fault.chain, Tame text := by
  cases fault with
  | cutShort =>
      unfold BodyFault.chain
      rw [List.forall_mem_cons, List.forall_mem_singleton]
      exact ⟨BodyFault.cutShort.tame_message, .of_all (by decide)⟩
  | timedOut => exact List.forall_mem_singleton.mpr BodyFault.timedOut.tame_message

/-! ## Failed calls -/

namespace CallError

/-- None of the messages has a control in it. -/
def IsTame (e : CallError) : Prop := ∀ text ∈ e.chain, Tame text

variable {r : HttpRequest}

theorem isTame_invalidEndpoint (call : ServiceCall) (cause : UrlError) :
    (invalidEndpoint call.path cause).IsTame := by
  unfold IsTame chain
  rw [List.forall_mem_cons, List.forall_mem_singleton]
  exact ⟨.append (.of_all (by decide)) call.tame_path, cause.tame_message⟩

theorem tame_callText (h : r.url.IsPrintable) : Tame (callText r) :=
  .append (.append (.append r.method.tame_text (.of_all (by decide))) h.tame_text)
    (.of_all (by decide))

theorem tame_decodingText (h : r.url.IsPrintable) : Tame (decodingText r) :=
  .append (.of_all (by decide)) h.tame_text

/-- The address that a request is sent to, between fixed words. -/
theorem tame_forUrl (h : r.url.IsPrintable) {before after : String} (hbefore : Tame before)
    (hafter : Tame after) : Tame (before ++ r.target.text ++ "): " ++ after) :=
  .append (.append (.append hbefore (HttpRequest.isPrintable_target h).tame_text)
    (.of_all (by decide))) hafter

theorem isTame_schemeNotAllowed (h : r.url.IsPrintable) : (schemeNotAllowed r).IsTame := by
  unfold IsTame chain
  rw [List.forall_mem_cons, List.forall_mem_cons, List.forall_mem_singleton]
  exact ⟨tame_callText h, tame_forUrl h (.of_all (by decide)) (.of_all (by decide)),
    .of_all (by decide)⟩

theorem isTame_notAnswered (h : r.url.IsPrintable) {fault : TransportFault}
    (hfault : fault.IsTame) : (notAnswered r fault).IsTame := by
  unfold IsTame chain
  rw [List.forall_mem_cons, List.forall_mem_cons]
  exact ⟨tame_callText h, tame_forUrl h (.of_all (by decide)) hfault.message, hfault.chain⟩

theorem isTame_status (h : r.url.IsPrintable) (code : Nat) : (status r code).IsTame :=
  List.forall_mem_singleton.mpr (tame_statusError (HttpRequest.isPrintable_target h).tame_text)

theorem isTame_cutShort (h : r.url.IsPrintable) (fault : BodyFault) :
    (cutShort r fault).IsTame := by
  unfold IsTame chain
  rw [List.forall_mem_cons, List.forall_mem_cons]
  exact ⟨tame_decodingText h, .append (.of_all (by decide)) fault.tame_message, fault.tame_chain⟩

theorem isTame_undecodable (h : r.url.IsPrintable) {cause : Json.DecodeError}
    (hcause : Tame cause.text) : (undecodable r cause).IsTame := by
  unfold IsTame chain
  rw [List.forall_mem_cons, List.forall_mem_cons, List.forall_mem_singleton]
  exact ⟨tame_decodingText h, .append (.of_all (by decide)) hcause, hcause⟩

end CallError

/-! ## Requests and answers -/

namespace Client

variable {c : Client}

/-- The base address of a client can be printed, whatever it was read from. -/
theorem isPrintable_base {text : String} (h : ofBase text = .ok c) : c.base.IsPrintable := by
  unfold ofBase at h
  split at h
  · next url hurl =>
    cases h
    exact (Url.isPrintable_of_parse hurl).withTrailingSlash
  · cases h

/-- So can the address of a request; and if no request can be made, this is said without any
control. -/
theorem request_tame (h : c.base.IsPrintable) (call : ServiceCall) :
    (∀ r, c.request call = .ok r → r.url.IsPrintable) ∧
      ∀ e, c.request call = .error e → e.IsTame := by
  have hjoin := h.join call.path
  unfold request endpoint
  cases hurl : c.base.join call.path with
  | error cause =>
      refine ⟨fun r hr => ?_, fun e he => ?_⟩
      · injection hr
      · injection he with he
        exact he ▸ CallError.isTame_invalidEndpoint call cause
  | ok url =>
      have hprintable := hjoin url hurl
      simp only [bind, Except.bind]
      split
      · refine ⟨fun r hr => ?_, fun e he => ?_⟩
        · injection hr with hr
          exact hr ▸ hprintable
        · injection he
      · refine ⟨fun r hr => ?_, fun e he => ?_⟩
        · injection hr
        · injection he with he
          exact he ▸ CallError.isTame_schemeNotAllowed hprintable

/-- What the network may come to: if it fails, it says so without any control. -/
def OutcomeTame (outcome : HttpOutcome) : Prop := ∀ fault, outcome = .error fault → fault.IsTame

/-- Whatever the answer is, a failure to read it is told without any control. -/
theorem decoded_tame {α : Type} {decode : Json.Bytes → Json.Reading α}
    (hdecode : ∀ bs, Json.FailsTamely (decode bs)) {r : HttpRequest} (hurl : r.url.IsPrintable)
    {outcome : HttpOutcome} (houtcome : OutcomeTame outcome) {e : CallError}
    (h : decoded decode r outcome = .error e) : e.IsTame := by
  cases outcome with
  | error fault =>
      cases h
      exact CallError.isTame_notAnswered hurl (houtcome fault rfl)
  | ok response =>
      rw [decoded_ok] at h
      split at h
      · cases h
        exact CallError.isTame_status hurl _
      · split at h
        · cases h
          exact CallError.isTame_cutShort hurl _
        · cases h
        · next cause _ hcause =>
          cases h
          exact CallError.isTame_undecodable hurl (hdecode response.body cause hcause)

end Client

/-! ## The formats of the answers -/

theorem tame_aString : Tame "a string" := .of_all (by decide)

theorem healthFormat_isTame : healthFormat.IsTame where
  name := .of_all (by decide)
  fields := by
    intro field hfield
    simp only [healthFormat, List.mem_cons, List.not_mem_nil, or_false] at hfield
    rcases hfield with rfl | rfl | rfl
    · exact ⟨.of_all (by decide), fun _ bs => .bind (Json.readName_tame bs) fun _ => .ok _⟩
    · exact ⟨.of_all (by decide), fun _ bs =>
        .bind (Json.readText_tame tame_aString bs) fun _ => .ok _⟩
    · exact ⟨.of_all (by decide), fun _ bs => .bind (Json.readDouble_tame bs) fun _ => .ok _⟩

theorem metricFormat_isTame : metricFormat.IsTame where
  name := .of_all (by decide)
  fields := by
    intro field hfield
    simp only [metricFormat, List.mem_cons, List.not_mem_nil, or_false] at hfield
    rcases hfield with rfl | rfl
    · exact ⟨.of_all (by decide), fun _ bs =>
        .bind (Json.readText_tame tame_aString bs) fun _ => .ok _⟩
    · exact ⟨.of_all (by decide), fun _ bs => .bind (Json.readDouble_tame bs) fun _ => .ok _⟩

theorem alertFormat_isTame : alertFormat.IsTame where
  name := .of_all (by decide)
  fields := by
    intro field hfield
    simp only [alertFormat, List.mem_cons, List.not_mem_nil, or_false] at hfield
    rcases hfield with rfl | rfl | rfl
    · exact ⟨.of_all (by decide), fun _ bs => .bind (Json.readName_tame bs) fun _ => .ok _⟩
    · exact ⟨.of_all (by decide), fun _ bs =>
        .bind (Json.readText_tame tame_aString bs) fun _ => .ok _⟩
    · exact ⟨.of_all (by decide), fun _ bs =>
        .bind (Json.readText_tame tame_aString bs) fun _ => .ok _⟩

theorem metricsFormat_isTame : metricsFormat.IsTame where
  name := .of_all (by decide)
  fields := by
    intro field hfield
    obtain rfl := List.mem_singleton.mp hfield
    exact ⟨.of_all (by decide), fun _ bs =>
      .bind (Json.readList_tame metricFormat_isTame.read bs) fun _ => .ok _⟩

theorem alertsFormat_isTame : alertsFormat.IsTame where
  name := .of_all (by decide)
  fields := by
    intro field hfield
    obtain rfl := List.mem_singleton.mp hfield
    exact ⟨.of_all (by decide), fun _ bs =>
      .bind (Json.readList_tame alertFormat_isTame.read bs) fun _ => .ok _⟩

end LoadMonitor
