import LoadMonitor.Proofs.Json.Rearrangement
import LoadMonitor.Service.Responses
import Mathlib

/-!
# Responses as trees

What the tree of an answer says, field by field, and that reading the answer as it comes yields
exactly this: it succeeds if and only if the tree has the shape.
-/

namespace LoadMonitor

open Json

/-! ## What trees say -/

/-- The health that a tree reports. Every field has a default. -/
def HealthSnapshot.ofTree? (tree : Tree) : Option HealthSnapshot := do
  let members ← tree.members? ["status", "version", "uptime_seconds"]
  let status ← Tree.optional members "status" .unknown fun t => t.name?.map HealthStatus.ofLabel
  let version ← Tree.optional members "version" "unknown" Tree.text?
  let uptimeSeconds ← Tree.optional members "uptime_seconds" .zero Tree.double?
  return ⟨status, version, uptimeSeconds⟩

/-- The metric of a tree. No field may be missing. -/
def MetricSnapshot.ofTree? (tree : Tree) : Option MetricSnapshot := do
  let members ← tree.members? ["name", "value"]
  let name ← Tree.required members "name" Tree.text?
  let value ← Tree.required members "value" Tree.double?
  return ⟨name, value⟩

/-- The metrics that a tree reports. -/
def MetricSnapshot.listOfTree? (tree : Tree) : Option (List MetricSnapshot) := do
  let members ← tree.members? ["metrics"]
  Tree.optional members "metrics" [] (Tree.list? MetricSnapshot.ofTree?)

/-- The alert of a tree. Only its message may be missing. -/
def AlertSnapshot.ofTree? (tree : Tree) : Option AlertSnapshot := do
  let members ← tree.members? ["severity", "name", "message"]
  let severity ← Tree.required members "severity" fun t => t.name?.map AlertSeverity.ofLabel
  let name ← Tree.required members "name" Tree.text?
  let message ← Tree.optional members "message" "" Tree.text?
  return ⟨severity, name, message⟩

/-- The active alerts that a tree reports. -/
def AlertSnapshot.listOfTree? (tree : Tree) : Option (List AlertSnapshot) := do
  let members ← tree.members? ["alerts"]
  Tree.optional members "alerts" [] (Tree.list? AlertSnapshot.ofTree?)

/-! ## The slots of the formats

Slots of one draft are apart because each has a field of the draft of its own. -/

def healthLayout : Layout healthFormat where
  slots :=
    [{ name := "status", required := false, Value := String, read := readName, view := Tree.name?
       isSet := (·.status.isSome), set := fun s draft => { draft with status := some (.ofLabel s) }
       mirrors := readName_mirrors, isSet_set := fun _ _ => rfl },
      { name := "version", required := false, Value := String, read := readText "a string"
        view := Tree.text?, isSet := (·.version.isSome)
        set := fun s draft => { draft with version := some s }
        mirrors := readText_mirrors _, isSet_set := fun _ _ => rfl },
      { name := "uptime_seconds", required := false, Value := Binary64, read := readDouble
        view := Tree.double?, isSet := (·.uptimeSeconds.isSome)
        set := fun x draft => { draft with uptimeSeconds := some x }
        mirrors := readDouble_mirrors, isSet_set := fun _ _ => rfl }]
  fields_eq := rfl
  apart := by
    simp only [List.pairwise_cons, List.forall_mem_cons]
    refine ⟨⟨?_, ?_, by simp⟩, ⟨?_, by simp⟩, by simp⟩
    all_goals exact ⟨by decide, fun _ _ _ => rfl, fun _ _ => rfl, fun _ _ => rfl⟩
  blank := by simp [healthFormat]

theorem healthLayout_project : healthLayout.project = HealthSnapshot.ofTree? := by
  funext tree
  refine congrArg (tree.members? _).bind (funext fun members => ?_)
  simp only [Layout.ofMembers, Slot.complete, Slot.settle, Slot.fill, List.all_cons, List.all_nil,
    healthLayout, Tree.optional, Option.bind_eq_bind]
  -- Whether a member is there decides between its value and the default, on both sides alike.
  cases members.lookup "status" <;> cases members.lookup "version" <;>
    cases members.lookup "uptime_seconds" <;>
    simp [healthFormat, Option.map_eq_bind, Option.bind_assoc]

def metricLayout : Layout metricFormat where
  slots :=
    [{ name := "name", required := true, Value := String, read := readText "a string"
       view := Tree.text?, isSet := (·.name.isSome)
       set := fun s draft => { draft with name := some s }
       mirrors := readText_mirrors _, isSet_set := fun _ _ => rfl },
      { name := "value", required := true, Value := Binary64, read := readDouble
        view := Tree.double?, isSet := (·.value.isSome)
        set := fun x draft => { draft with value := some x }
        mirrors := readDouble_mirrors, isSet_set := fun _ _ => rfl }]
  fields_eq := rfl
  apart := by
    simp only [List.pairwise_cons, List.forall_mem_cons]
    refine ⟨⟨?_, by simp⟩, by simp⟩
    exact ⟨by decide, fun _ _ _ => rfl, fun _ _ => rfl, fun _ _ => rfl⟩
  blank := by simp [metricFormat]

theorem metricLayout_project : metricLayout.project = MetricSnapshot.ofTree? := by
  funext tree
  refine congrArg (tree.members? _).bind (funext fun members => ?_)
  simp only [Layout.ofMembers, Slot.complete, Slot.settle, Slot.fill, List.all_cons, List.all_nil,
    metricLayout, Tree.required, Option.bind_eq_bind]
  cases members.lookup "name" <;> cases members.lookup "value" <;>
    simp [metricFormat, Option.map_eq_bind, Option.bind_assoc]

def metricsLayout : Layout metricsFormat where
  slots :=
    [{ name := "metrics", required := false, Value := List MetricSnapshot
       read := readList metricFormat.read, view := Tree.list? metricLayout.project
       isSet := (·.isSome), set := fun metrics _ => some metrics
       mirrors := readList_mirrors metricLayout.read_mirrors, isSet_set := fun _ _ => rfl }]
  fields_eq := rfl
  apart := List.pairwise_singleton _ _
  blank := by simp [metricsFormat]

theorem metricsLayout_project : metricsLayout.project = MetricSnapshot.listOfTree? := by
  funext tree
  refine congrArg (tree.members? _).bind (funext fun members => ?_)
  simp only [Layout.ofMembers, Slot.complete, Slot.settle, Slot.fill, List.all_cons, List.all_nil,
    metricsLayout, Tree.optional, metricLayout_project]
  cases members.lookup "metrics" <;>
    simp [metricsFormat, Option.map_eq_bind, Option.bind_assoc]

def alertLayout : Layout alertFormat where
  slots :=
    [{ name := "severity", required := true, Value := String, read := readName, view := Tree.name?
       isSet := (·.severity.isSome)
       set := fun s draft => { draft with severity := some (.ofLabel s) }
       mirrors := readName_mirrors, isSet_set := fun _ _ => rfl },
      { name := "name", required := true, Value := String, read := readText "a string"
        view := Tree.text?, isSet := (·.name.isSome)
        set := fun s draft => { draft with name := some s }
        mirrors := readText_mirrors _, isSet_set := fun _ _ => rfl },
      { name := "message", required := false, Value := String, read := readText "a string"
        view := Tree.text?, isSet := (·.message.isSome)
        set := fun s draft => { draft with message := some s }
        mirrors := readText_mirrors _, isSet_set := fun _ _ => rfl }]
  fields_eq := rfl
  apart := by
    simp only [List.pairwise_cons, List.forall_mem_cons]
    refine ⟨⟨?_, ?_, by simp⟩, ⟨?_, by simp⟩, by simp⟩
    all_goals exact ⟨by decide, fun _ _ _ => rfl, fun _ _ => rfl, fun _ _ => rfl⟩
  blank := by simp [alertFormat]

theorem alertLayout_project : alertLayout.project = AlertSnapshot.ofTree? := by
  funext tree
  refine congrArg (tree.members? _).bind (funext fun members => ?_)
  simp only [Layout.ofMembers, Slot.complete, Slot.settle, Slot.fill, List.all_cons, List.all_nil,
    alertLayout, Tree.optional, Tree.required, Option.bind_eq_bind]
  cases members.lookup "severity" <;> cases members.lookup "name" <;>
    cases members.lookup "message" <;>
    simp [alertFormat, Option.map_eq_bind, Option.bind_assoc]

def alertsLayout : Layout alertsFormat where
  slots :=
    [{ name := "alerts", required := false, Value := List AlertSnapshot
       read := readList alertFormat.read, view := Tree.list? alertLayout.project
       isSet := (·.isSome), set := fun alerts _ => some alerts
       mirrors := readList_mirrors alertLayout.read_mirrors, isSet_set := fun _ _ => rfl }]
  fields_eq := rfl
  apart := List.pairwise_singleton _ _
  blank := by simp [alertsFormat]

theorem alertsLayout_project : alertsLayout.project = AlertSnapshot.listOfTree? := by
  funext tree
  refine congrArg (tree.members? _).bind (funext fun members => ?_)
  simp only [Layout.ofMembers, Slot.complete, Slot.settle, Slot.fill, List.all_cons, List.all_nil,
    alertsLayout, Tree.optional, alertLayout_project]
  cases members.lookup "alerts" <;>
    simp [alertsFormat, Option.map_eq_bind, Option.bind_assoc]

/-! ## Trees that say the same -/

/-- Trees that report the same health in another order or among other members. -/
abbrev HealthSnapshot.Alike : Tree → Tree → Prop :=
  Tree.Alike ["status", "version", "uptime_seconds"] Eq

/-- Trees that report the same metrics in other orders or among other members. -/
abbrev MetricSnapshot.Alike : Tree → Tree → Prop :=
  Tree.Alike ["metrics"] (Tree.AlikeItems (Tree.Alike ["name", "value"] Eq))

/-- Trees that report the same alerts in other orders or among other members. -/
abbrev AlertSnapshot.Alike : Tree → Tree → Prop :=
  Tree.Alike ["alerts"] (Tree.AlikeItems (Tree.Alike ["severity", "name", "message"] Eq))

/-- Without records inside a record, only equal values look the same. -/
theorem Json.Layout.project_alike_eq {δ α : Type} {f : Format δ α} (l : Layout f)
    {tree tree' : Tree} (h : Tree.Alike l.names Eq tree tree') : l.project tree = l.project tree' :=
  l.project_alike (fun s _ _ _ heq => congrArg s.view heq) h

theorem metricsLayout_alike {tree tree' : Tree} (h : MetricSnapshot.Alike tree tree') :
    metricsLayout.project tree = metricsLayout.project tree' := by
  refine metricsLayout.project_alike (fun s hs t t' ht => ?_) h
  obtain rfl := List.mem_singleton.mp hs
  have hitem : ∀ t t', Tree.Alike ["name", "value"] Eq t t' →
      metricLayout.project t = metricLayout.project t' :=
    fun _ _ => metricLayout.project_alike_eq
  exact ht.list?_eq hitem

theorem alertsLayout_alike {tree tree' : Tree} (h : AlertSnapshot.Alike tree tree') :
    alertsLayout.project tree = alertsLayout.project tree' := by
  refine alertsLayout.project_alike (fun s hs t t' ht => ?_) h
  obtain rfl := List.mem_singleton.mp hs
  have hitem : ∀ t t', Tree.Alike ["severity", "name", "message"] Eq t t' →
      alertLayout.project t = alertLayout.project t' :=
    fun _ _ => alertLayout.project_alike_eq
  exact ht.list?_eq hitem

/-! ## Whole answers -/

/-- What a reader mirrors decides what it makes of a whole text. -/
theorem Json.Layout.ofBytes_toOption {δ α : Type} {f : Format δ α} (l : Layout f) {bs : Bytes}
    {tree : Tree} (h : Tree.ofBytes bs = .ok tree) :
    (f.ofBytes bs).toOption = l.project tree := by
  obtain ⟨rest, hspells, hend⟩ := Tree.ofBytes_eq_ok.mp h
  simp only [Format.ofBytes, Reading.toOption_bind, l.read_mirrors hspells]
  cases l.project tree with
  | none => rfl
  | some record => simp [expectEnd, hend]

/-- On a text that is JSON, reading an answer as it comes is the same as parsing the text and looking
at its tree: it succeeds exactly if the tree has the shape, and yields what the tree says. Texts
whose trees differ only in the order of members or in members that are not fields read the same. -/
theorem responses_read_as_trees {bs : Bytes} {tree : Tree} (h : Tree.ofBytes bs = .ok tree) :
    (healthFormat.ofBytes bs).toOption = HealthSnapshot.ofTree? tree ∧
    (metricsFormat.ofBytes bs).toOption = MetricSnapshot.listOfTree? tree ∧
    (alertsFormat.ofBytes bs).toOption = AlertSnapshot.listOfTree? tree ∧
    ∀ bs' tree', Tree.ofBytes bs' = .ok tree' →
      (HealthSnapshot.Alike tree tree' →
        (healthFormat.ofBytes bs').toOption = (healthFormat.ofBytes bs).toOption) ∧
      (MetricSnapshot.Alike tree tree' →
        (metricsFormat.ofBytes bs').toOption = (metricsFormat.ofBytes bs).toOption) ∧
      (AlertSnapshot.Alike tree tree' →
        (alertsFormat.ofBytes bs').toOption = (alertsFormat.ofBytes bs).toOption) := by
  refine ⟨?_, ?_, ?_, fun bs' tree' h' => ⟨fun halike => ?_, fun halike => ?_, fun halike => ?_⟩⟩
  · rw [healthLayout.ofBytes_toOption h, healthLayout_project]
  · rw [metricsLayout.ofBytes_toOption h, metricsLayout_project]
  · rw [alertsLayout.ofBytes_toOption h, alertsLayout_project]
  · rw [healthLayout.ofBytes_toOption h, healthLayout.ofBytes_toOption h']
    exact (healthLayout.project_alike_eq halike).symm
  · rw [metricsLayout.ofBytes_toOption h, metricsLayout.ofBytes_toOption h']
    exact (metricsLayout_alike halike).symm
  · rw [alertsLayout.ofBytes_toOption h, alertsLayout.ofBytes_toOption h']
    exact (alertsLayout_alike halike).symm

set_option maxRecDepth 10000 in
/-- An alert without a message, of a severity that has no name here, and the same alert behind other
members. -/
theorem responses_read_as_trees_alerts :
    let bs := "\x7b\"alerts\":[\x7b\"name\":\"cpu\",\"severity\":\"fatal\"\x7d]\x7d".toUTF8.toList
    let bs' := ("\x7b \"page\":null,\"alerts\":[" ++
      "\x7b\"id\":\"7\",\"severity\":\"fatal\",\"name\":\"cpu\"\x7d]\x7d").toUTF8.toList
    (alertsFormat.ofBytes bs).toOption = some [⟨.unknown, "cpu", ""⟩] ∧
    (alertsFormat.ofBytes bs').toOption = some [⟨.unknown, "cpu", ""⟩] := by
  intro bs bs'
  let alert := [("name", Tree.string "cpu"), ("severity", .string "fatal")]
  let alert' := [("severity", Tree.string "fatal"), ("name", .string "cpu")]
  have h : Tree.ofBytes bs = .ok (.object [("alerts", .array [.object alert])]) := by
    unfold bs alert
    cbv
  have h' : Tree.ofBytes bs' = .ok (.object [("page", .null),
      ("alerts", .array [.object (("id", .string "7") :: alert')])]) := by
    unfold bs' alert'
    cbv
  have horder : Tree.Alike ["severity", "name", "message"] Eq (.object alert) (.object alert') :=
    .order (List.Perm.swap _ _ _)
  have halert := horder.trans (.unknown alert' (.string "7") (show "id" ∉ _ by decide))
  have hitems : AlertSnapshot.Alike (.object [("alerts", .array [.object alert])])
      (.object [("alerts", .array [.object (("id", .string "7") :: alert')])]) :=
    .values (.cons ⟨rfl, .items (.cons halert .nil)⟩ .nil)
  have halike := hitems.trans (.unknown _ .null (show "page" ∉ _ by decide))
  obtain ⟨-, -, halerts, hothers⟩ := responses_read_as_trees h
  have hread : (alertsFormat.ofBytes bs).toOption = some [⟨.unknown, "cpu", ""⟩] := halerts.trans rfl
  exact ⟨hread, ((hothers bs' _ h').2.2 halike).trans hread⟩

end LoadMonitor
