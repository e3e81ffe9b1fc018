import LoadMonitor.Client.Basic
import LoadMonitor.Proofs.Json.Encoding
import LoadMonitor.Proofs.Json.Members

/-!
# What the client sends

The bodies of the calls that write: from the body, a reader of JSON gets back every log line, and the
query as it was given.
-/

namespace LoadMonitor

open Json

/-! ## Records -/

namespace LogRecord

/-- Records whose attributes are plain values. -/
def Plain (r : LogRecord) : Prop := ∀ m ∈ r.attributes, m.2.Plain

theorem Plain.toJson {r : LogRecord} (h : r.Plain) : r.toJson.Plain := by
  refine .object fun m hm => ?_
  simp only [List.mem_cons, List.not_mem_nil, or_false] at hm
  obtain rfl | rfl | rfl | rfl | rfl := hm
  iterate 4 exact .string _
  · exact .object h

theorem plain_batch {records : List LogRecord} (h : ∀ r ∈ records, r.Plain) :
    (JsonValue.array (records.map LogRecord.toJson)).Plain := by
  refine .array fun v hv => ?_
  obtain ⟨r, hr, rfl⟩ := List.mem_map.mp hv
  exact (h r hr).toJson

end LogRecord

theorem LogLevel.label_inj {l l' : LogLevel} (h : l.label = l'.label) : l = l' := by
  revert h
  cases l <;> cases l' <;> decide

theorem LogRecord.toJson_injective : Function.Injective LogRecord.toJson := by
  rintro ⟨level, message, service, timestamp, attributes⟩ ⟨level', _, _, _, _⟩ h
  simp only [toJson, JsonValue.object.injEq, List.cons.injEq, Prod.mk.injEq, JsonValue.string.injEq,
    true_and, and_true] at h
  obtain ⟨hlevel, rfl, rfl, rfl, rfl⟩ := h
  rw [LogLevel.label_inj hlevel]

/-! ## Bodies -/

namespace ServiceCall

/-- The body of a call is a JSON text of the value, and no control character stands in it. -/
def Sends (call : ServiceCall) (v : JsonValue) : Prop :=
  ∃ body tree, call.body = some body ∧ Tree.ofBytes body.toUTF8.toList = .ok tree ∧
    tree.value? = some v ∧ ∀ c ∈ body.toList, 0x20 ≤ c.toNat

theorem sends_of_plain {call : ServiceCall} {v : JsonValue} (hbody : call.body = some v.text)
    (hv : v.Plain) : call.Sends v := by
  obtain ⟨tree, htree, hvalue⟩ := hv.ofBytes_text
  refine ⟨v.text, tree, hbody, htree, hvalue, ?_⟩
  rw [JsonValue.text, String.toList_ofList]
  exact hv.printable

theorem plain_query (sql : String) : (JsonValue.object [("sql", .string sql)]).Plain := by
  refine .object fun m hm => ?_
  rw [List.mem_singleton.mp hm]
  exact .string sql

theorem postLogs_body_inj {endpoint endpoint' : IngestRoute} {records records' : List LogRecord}
    (h : ∀ r ∈ records, r.Plain) (h' : ∀ r ∈ records', r.Plain)
    (heq : (postLogs endpoint records).body = (postLogs endpoint' records').body) :
    records = records' := by
  have hvalues := (LogRecord.plain_batch h).text_inj (LogRecord.plain_batch h') (Option.some.inj heq)
  exact List.map_injective_iff.mpr LogRecord.toJson_injective (JsonValue.array.inj hvalues)

theorem postQuery_body_inj {sql sql' : String}
    (heq : (postQuery sql).body = (postQuery sql').body) : sql = sql' := by
  have hvalues := (plain_query sql).text_inj (plain_query sql') (Option.some.inj heq)
  simpa using hvalues

end ServiceCall

/-- The body of a batch is an array with an object for each record in order, which has the members of
the record and the attributes as they are, and the body of a query is an object with the query as
its only member. Different batches and different queries have different bodies, and it makes no
difference in which order the attributes of a record were set. -/
theorem bodies_read_back (endpoint : IngestRoute) {records : List LogRecord}
    (hrecords : ∀ r ∈ records, r.Plain) (sql : String) :
    (ServiceCall.postLogs endpoint records).Sends
      (.array (records.map fun r =>
        .object [("level", .string r.level.label), ("message", .string r.message),
          ("service", .string r.service), ("timestamp", .string r.timestamp),
          ("attributes", .object r.attributes)])) ∧
    (∀ endpoint' records', (∀ r ∈ records', r.Plain) →
      (ServiceCall.postLogs endpoint records).body =
        (ServiceCall.postLogs endpoint' records').body → records = records') ∧
    (∀ (before after : List LogRecord) (r : LogRecord) (entries entries' : JsonMembers),
      (entries.map Prod.fst).Nodup → entries.Perm entries' →
      (ServiceCall.postLogs endpoint
        (before ++ { r with attributes := .ofList entries } :: after)).body =
      (ServiceCall.postLogs endpoint
        (before ++ { r with attributes := .ofList entries' } :: after)).body) ∧
    (ServiceCall.postQuery sql).Sends (.object [("sql", .string sql)]) ∧
    (∀ sql', (ServiceCall.postQuery sql).body = (ServiceCall.postQuery sql').body → sql = sql') := by
  refine ⟨ServiceCall.sends_of_plain rfl (LogRecord.plain_batch hrecords),
    fun _ _ hrecords' => ServiceCall.postLogs_body_inj hrecords hrecords', ?_,
    ServiceCall.sends_of_plain rfl (ServiceCall.plain_query sql),
    fun _ => ServiceCall.postQuery_body_inj⟩
  intro before after r entries entries' hkeys hperm
  rw [JsonMembers.ofList_perm hkeys hperm]

/-- A log line with a quote, a line break and a nested attribute under an odd key, which may as well
be set first. -/
theorem bodies_read_back_warning :
    let entries : JsonMembers :=
      [("load_test", .bool true), ("é\x01", .array [.integer (-3), .object [("k", .null)]])]
    let r : LogRecord :=
      ⟨.warning, "a \"b\"\n", "load-test", "2024-01-01T00:00:00Z", .ofList entries⟩
    let body := "[\x7b\"level\":\"warning\",\"message\":\"a \\\"b\\\"\\n\"," ++
      "\"service\":\"load-test\",\"timestamp\":\"2024-01-01T00:00:00Z\"," ++
      "\"attributes\":\x7b\"load_test\":true,\"é\\u0001\":[-3,\x7b\"k\":null\x7d]\x7d\x7d]"
    (∀ s ∈ [r], s.Plain) ∧ (entries.map Prod.fst).Nodup ∧
    (ServiceCall.postLogs .bulk [r]).body = some body ∧
    (ServiceCall.postLogs .bulk [{ r with attributes := .ofList entries.reverse }]).body =
      some body ∧
    ∃ tree, Tree.ofBytes body.toUTF8.toList = .ok tree ∧
      tree.value? = some (.array [r.toJson]) := by
  intro entries r text
  have hkeys : (entries.map Prod.fst).Nodup := by decide
  have hr : ∀ s ∈ [r], s.Plain := by
    intro s hs
    obtain rfl := List.mem_singleton.mp hs
    intro m hm
    have hset : m ∈ entries := hm
    obtain rfl | rfl := List.mem_pair.mp hset
    · exact .bool true
    refine .array fun v hv => ?_
    obtain rfl | rfl := List.mem_pair.mp hv
    · exact .integer ⟨by decide, by decide⟩
    refine .object fun n hn => ?_
    rw [List.mem_singleton.mp hn]
    exact .null
  have htext : (ServiceCall.postLogs .bulk [r]).body = some text := by
    unfold r entries text
    decide +kernel
  obtain ⟨⟨body, tree, hbody, htree, hvalue, -⟩, -, horder, -⟩ := bodies_read_back .bulk hr ""
  obtain rfl : text = body := Option.some.inj (htext.symm.trans hbody)
  have hsame := horder [] [] r entries entries.reverse hkeys (List.reverse_perm entries).symm
  exact ⟨hr, hkeys, htext, hsame.symm.trans htext, tree, htree, hvalue⟩

end LoadMonitor
