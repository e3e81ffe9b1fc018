import LoadMonitor.Proofs.Binary64.Rounding
import LoadMonitor.Proofs.Text.Order
import LoadMonitor.Report.Summary

/-!
# What a summary says of the records

Records are put into groups one by one. The groups stay in ascending order, each holds just the
records of its operation, and none is empty; so there is one row for each operation that occurs,
and its figures can be read off the records without any groups. They are counts and extremes,
hence the order of the records does not matter to them.
-/

namespace LoadMonitor

namespace Summary

variable {r : OperationRecord} {gs : Groups} {records other : List OperationRecord}

/-! ## Groups -/

/-- The names of the groups. -/
def names (gs : Groups) : List String := gs.map (·.1)

/-- Each name stands before the greater ones, and only once. -/
def Ascending (gs : Groups) : Prop := gs.Pairwise fun g h => g.1 < h.1

/-- The records of an operation. -/
def recordsOf (name : String) (records : List OperationRecord) : List OperationRecord :=
  records.filter (·.operation = name)

theorem lt_of_not_lt_of_ne {s t : String} (hne : s ≠ t) (hlt : ¬s < t) : t < s := by
  by_cases h : t < s
  · exact h
  · exact absurd (String.le_antisymm (String.not_lt.mp h) (String.not_lt.mp hlt)) hne

/-- Entering a record adds its operation to the names and no other one. -/
theorem mem_names_enter (name : String) :
    name ∈ names (enter r gs) ↔ name = r.operation ∨ name ∈ names gs := by
  unfold names
  induction gs with
  | nil => simp [enter]
  | cons g rest ih =>
      simp only [enter]
      split
      case isTrue hsame => simp [hsame]
      case isFalse =>
        split
        case isTrue => simp
        case isFalse =>
          rw [List.map_cons, List.mem_cons, ih, List.map_cons, List.mem_cons]
          exact or_left_comm

/-- A name below that of the first group is below those of all groups. -/
theorem Ascending.lt_of_lt_first {name : String} {g : String × Array OperationRecord}
    (h : Ascending (g :: gs)) (hlt : name < g.1) : ∀ g' ∈ g :: gs, name < g'.1 := by
  intro g' hmem
  rcases List.mem_cons.mp hmem with rfl | hmem
  · exact hlt
  · exact String.lt_trans hlt ((List.pairwise_cons.mp h).1 g' hmem)

theorem enter_ascending (h : Ascending gs) : Ascending (enter r gs) := by
  induction gs with
  | nil => exact List.pairwise_singleton _ _
  | cons g rest ih =>
      obtain ⟨hfirst, hrest⟩ := List.pairwise_cons.mp h
      simp only [enter]
      split
      case isTrue => exact List.pairwise_cons.mpr ⟨hfirst, hrest⟩
      case isFalse hne =>
        split
        case isTrue hlt => exact List.pairwise_cons.mpr ⟨h.lt_of_lt_first hlt, h⟩
        case isFalse hlt =>
          refine List.pairwise_cons.mpr ⟨?_, ih hrest⟩
          intro g' hmem
          -- Behind the first group stand the others and, maybe, the new one.
          rcases (mem_names_enter g'.1).mp (List.mem_map_of_mem hmem) with heq | hmem
          · rw [heq]
            exact lt_of_not_lt_of_ne hne hlt
          · obtain ⟨g'', hmem, heq⟩ := List.mem_map.mp hmem
            rw [← heq]
            exact hfirst g'' hmem

/-- A group is an old one, an old one that has grown by the record, or made for it. -/
theorem mem_enter (h : Ascending gs) {g : String × Array OperationRecord} (hmem : g ∈ enter r gs) :
    g ∈ gs ∧ g.1 ≠ r.operation ∨
      (∃ own, (r.operation, own) ∈ gs ∧ g = (r.operation, own.push r)) ∨
      r.operation ∉ names gs ∧ g = (r.operation, #[r]) := by
  unfold names
  induction gs with
  | nil =>
      rw [enter, List.mem_singleton] at hmem
      exact .inr (.inr ⟨List.not_mem_nil, hmem⟩)
  | cons g' rest ih =>
      obtain ⟨name, own⟩ := g'
      obtain ⟨hfirst, hrest⟩ := List.pairwise_cons.mp h
      have hbehind : ∀ k ∈ rest, k.1 ≠ name := by
        intro k hk heq
        have hlt := hfirst k hk
        rw [heq] at hlt
        exact String.lt_irrefl name hlt
      simp only [enter] at hmem
      split at hmem
      case isTrue hsame =>
        subst hsame
        rcases List.mem_cons.mp hmem with rfl | hmem
        · exact .inr (.inl ⟨own, List.mem_cons_self, rfl⟩)
        · exact .inl ⟨List.mem_cons_of_mem _ hmem, hbehind g hmem⟩
      case isFalse hne =>
        split at hmem
        case isTrue hlt =>
          -- All names from here on are greater than that of the record.
          have hnone : r.operation ∉ ((name, own) :: rest).map (·.1) := by
            intro hin
            obtain ⟨k, hk, heq⟩ := List.mem_map.mp hin
            have habove := h.lt_of_lt_first hlt k hk
            rw [heq] at habove
            exact String.lt_irrefl _ habove
          rcases List.mem_cons.mp hmem with rfl | hmem
          · exact .inr (.inr ⟨hnone, rfl⟩)
          · refine .inl ⟨hmem, ?_⟩
            intro heq
            exact hnone (heq ▸ List.mem_map_of_mem hmem)
        case isFalse =>
          rcases List.mem_cons.mp hmem with rfl | hmem
          · exact .inl ⟨List.mem_cons_self, Ne.symm hne⟩
          · rcases ih hrest hmem with ⟨hold, hother⟩ | ⟨own', hold, hgrown⟩ | ⟨hnone, hmade⟩
            · exact .inl ⟨List.mem_cons_of_mem _ hold, hother⟩
            · exact .inr (.inl ⟨own', List.mem_cons_of_mem _ hold, hgrown⟩)
            · refine .inr (.inr ⟨?_, hmade⟩)
              rw [List.map_cons, List.mem_cons, not_or]
              exact ⟨hne, hnone⟩

/-! ## All records -/

/-- Groups that hold the given records, each of them where it belongs. -/
structure Grouping (records : List OperationRecord) (gs : Groups) : Prop where
  ascending : Ascending gs
  own : ∀ g ∈ gs, g.2.toList = recordsOf g.1 records
  mem_names_iff : ∀ name, name ∈ names gs ↔ ∃ r ∈ records, r.operation = name

theorem Grouping.nil : Grouping [] [] where
  ascending := List.Pairwise.nil
  own := by
    intro g hmem
    cases hmem
  mem_names_iff := by
    intro name
    refine iff_of_false List.not_mem_nil ?_
    rintro ⟨r, hmem, -⟩
    cases hmem

/-- One more record. -/
theorem Grouping.enter (h : Grouping records gs) (r : OperationRecord) :
    Grouping (records ++ [r]) (enter r gs) where
  ascending := enter_ascending h.ascending
  own := by
    intro g hmem
    unfold recordsOf
    rw [List.filter_append]
    rcases mem_enter h.ascending hmem with ⟨hold, hother⟩ | ⟨own, hold, rfl⟩ | ⟨hnone, rfl⟩
    · rw [h.own g hold]
      simp [recordsOf, Ne.symm hother]
    · have hown : own.toList = recordsOf r.operation records := h.own _ hold
      simp [hown, recordsOf]
    · -- A group is made only for an operation that no record had.
      have hnobody : records.filter (·.operation = r.operation) = [] := by
        rw [List.filter_eq_nil_iff]
        intro r' hmem' hsame
        exact hnone ((h.mem_names_iff _).mpr ⟨r', hmem', of_decide_eq_true hsame⟩)
      simp [hnobody]
  mem_names_iff := by
    intro name
    rw [mem_names_enter, h.mem_names_iff]
    constructor
    · rintro (rfl | ⟨r', hmem, hname⟩)
      · exact ⟨r, List.mem_append_right _ List.mem_cons_self, rfl⟩
      · exact ⟨r', List.mem_append_left _ hmem, hname⟩
    · rintro ⟨r', hmem, hname⟩
      rcases List.mem_append.mp hmem with hmem | hmem
      · exact .inr ⟨r', hmem, hname⟩
      · rw [List.mem_singleton.mp hmem] at hname
        exact .inl hname.symm

/-- The groups of records hold the records. -/
theorem grouping (records : List OperationRecord) : Grouping records (groups records) := by
  -- From any groups of earlier records on.
  have hfrom : ∀ (later earlier : List OperationRecord) (gs : Groups), Grouping earlier gs →
      Grouping (earlier ++ later) (later.foldl (fun gs r => Summary.enter r gs) gs) := by
    intro later
    induction later with
    | nil =>
        intro earlier gs h
        rwa [List.append_nil]
    | cons r later ih =>
        intro earlier gs h
        have hnext := ih (earlier ++ [r]) (Summary.enter r gs) (h.enter r)
        rwa [List.append_assoc, List.singleton_append] at hnext
  exact hfrom records [] [] Grouping.nil

/-- How many records of a kind the groups hold. -/
def holding (p : OperationRecord → Bool) (gs : Groups) : Nat :=
  (gs.map fun g => g.2.toList.countP p).sum

theorem holding_enter (p : OperationRecord → Bool) (r : OperationRecord) (gs : Groups) :
    holding p (enter r gs) = holding p gs + if p r then 1 else 0 := by
  unfold holding
  induction gs with
  | nil => simp [enter, List.countP_cons]
  | cons g rest ih =>
      simp only [enter]
      split
      · simp only [List.map_cons, List.sum_cons, Array.toList_push, List.countP_append,
          List.countP_singleton]
        exact Nat.add_right_comm _ _ _
      · split
        · simp only [List.map_cons, List.sum_cons, List.countP_singleton]
          exact Nat.add_comm _ _
        · simp only [List.map_cons, List.sum_cons, ih]
          exact (Nat.add_assoc _ _ _).symm

/-- No record is lost and none is held twice. -/
theorem holding_groups (p : OperationRecord → Bool) (records : List OperationRecord) :
    holding p (groups records) = records.countP p := by
  have hfrom : ∀ (later : List OperationRecord) (gs : Groups),
      holding p (later.foldl (fun gs r => enter r gs) gs) = holding p gs + later.countP p := by
    intro later
    induction later with
    | nil =>
        intro gs
        rfl
    | cons r later ih =>
        intro gs
        rw [List.foldl_cons, ih, holding_enter, List.countP_cons, Nat.add_assoc,
          Nat.add_comm (List.countP p later)]
  rw [groups, hfrom]
  exact Nat.zero_add _

/-! ## Times -/

/-- Whole microseconds in milliseconds. -/
def inMilliseconds (micros : Nat) : Binary64 := Binary64.ofNat micros / 1000

theorem inMilliseconds_mono {m n : Nat} (h : m ≤ n) :
    (inMilliseconds m).bits.toNat ≤ (inMilliseconds n).bits.toNat :=
  Binary64.div_mono (Binary64.upright_ofNat m) (Binary64.upright_ofNat n)
    (Binary64.upright_ofNat 1000) (by decide +kernel) (by decide +kernel) (Binary64.ofNat_mono h)

theorem upright_inMilliseconds (n : Nat) : (inMilliseconds n).Upright :=
  Binary64.upright_div (Binary64.upright_ofNat n) (Binary64.upright_ofNat 1000)
    (by decide +kernel) (by decide +kernel)

/-- Two numbers may have the same time. -/
theorem inMilliseconds_eq_of_not_lt {m n : Nat} (hle : n ≤ m)
    (h : ¬(inMilliseconds n).bits.toNat < (inMilliseconds m).bits.toNat) :
    inMilliseconds m = inMilliseconds n :=
  Binary64.eq_of_bits (Nat.le_antisymm (Nat.not_lt.mp h) (inMilliseconds_mono hle))

/-- The smaller time is that of fewer microseconds. -/
theorem min_inMilliseconds (m n : Nat) :
    (inMilliseconds m).min (inMilliseconds n) = inMilliseconds (min m n) := by
  rw [(upright_inMilliseconds m).min_eq (upright_inMilliseconds n)]
  by_cases hle : m ≤ n
  · rw [if_neg (Nat.not_lt.mpr (inMilliseconds_mono hle)), Nat.min_eq_left hle]
  · have hge := Nat.le_of_not_le hle
    rw [Nat.min_eq_right hge]
    -- If their times are the same it does not matter which one is taken.
    split
    case isTrue => rfl
    case isFalse hlt => exact inMilliseconds_eq_of_not_lt hge hlt

theorem max_inMilliseconds (m n : Nat) :
    (inMilliseconds m).max (inMilliseconds n) = inMilliseconds (max m n) := by
  rw [(upright_inMilliseconds m).max_eq (upright_inMilliseconds n)]
  by_cases hle : n ≤ m
  · rw [if_neg (Nat.not_lt.mpr (inMilliseconds_mono hle)), Nat.max_eq_left hle]
  · have hge := Nat.le_of_not_le hle
    rw [Nat.max_eq_right hge]
    split
    case isTrue => rfl
    case isFalse hlt => exact (inMilliseconds_eq_of_not_lt hge hlt).symm

theorem least_inMilliseconds (ns : List Nat) :
    least (ns.map inMilliseconds) = (ns.min?.map inMilliseconds).getD 0 := by
  cases ns with
  | nil => rfl
  | cons n ns =>
      rw [List.min?_cons', Option.map_some, Option.getD_some, List.map_cons, least, List.foldl_map]
      exact List.foldl_hom inMilliseconds min_inMilliseconds

theorem greatest_inMilliseconds (ns : List Nat) :
    greatest (ns.map inMilliseconds) = (ns.max?.map inMilliseconds).getD 0 := by
  cases ns with
  | nil => rfl
  | cons n ns =>
      rw [List.max?_cons', Option.map_some, Option.getD_some, List.map_cons, greatest,
        List.foldl_map]
      exact List.foldl_hom inMilliseconds max_inMilliseconds

theorem min?_perm {ms ns : List Nat} (h : ms.Perm ns) : ms.min? = ns.min? := by
  apply Option.ext
  intro n
  rw [List.min?_eq_some_iff, List.min?_eq_some_iff, h.mem_iff]
  exact and_congr_right fun _ => forall_congr' fun m => by rw [h.mem_iff]

theorem max?_perm {ms ns : List Nat} (h : ms.Perm ns) : ms.max? = ns.max? := by
  apply Option.ext
  intro n
  rw [List.max?_eq_some_iff, List.max?_eq_some_iff, h.mem_iff]
  exact and_congr_right fun _ => forall_congr' fun m => by rw [h.mem_iff]

end Summary

/-! ## Figures -/

/-- The figures of a row but for the average, which alone depends on the order of the records. -/
structure Figures where
  operation : String
  total : Nat
  errors : Nat
  least : Binary64
  greatest : Binary64

/-- The figures that a row shows. -/
def OperationSummary.figures (row : OperationSummary) : Figures where
  operation := row.operation
  total := row.total
  errors := row.errors
  least := row.least
  greatest := row.greatest

/-- The whole microseconds that the calls of an operation took, as far as they are known. -/
def microsOf (name : String) (records : List OperationRecord) : List Nat :=
  (Summary.recordsOf name records).filterMap fun r => r.elapsed.map Duration.micros

/-- The same in milliseconds. -/
def timesOf (name : String) (records : List OperationRecord) : List Binary64 :=
  (Summary.recordsOf name records).filterMap fun r => r.elapsed.map Summary.milliseconds

/-- The figures of an operation: counts of its records, the least and the greatest of its times. -/
def Figures.of (records : List OperationRecord) (name : String) : Figures where
  operation := name
  total := records.countP (·.operation = name)
  errors := records.countP fun r => r.operation = name && r.failed
  least := ((microsOf name records).min?.map Summary.inMilliseconds).getD 0
  greatest := ((microsOf name records).max?.map Summary.inMilliseconds).getD 0

namespace Summary

variable {records other : List OperationRecord}

theorem timesOf_eq (name : String) (records : List OperationRecord) :
    timesOf name records = (microsOf name records).map inMilliseconds := by
  unfold timesOf microsOf
  rw [List.map_filterMap]
  congr 1
  funext r
  rw [Option.map_map]
  rfl

theorem figures_row (name : String) (records : List OperationRecord) :
    (row name (recordsOf name records)).figures = Figures.of records name := by
  have htimes := timesOf_eq name records
  unfold timesOf at htimes
  simp only [row, OperationSummary.figures, Figures.of, htimes, least_inMilliseconds,
    greatest_inMilliseconds, Figures.mk.injEq, true_and, and_true]
  refine ⟨List.countP_eq_length_filter.symm, ?_⟩
  rw [recordsOf, List.countP_filter]
  congr 1
  funext r
  exact Bool.and_comm _ _

/-- The rows are those of the operations that occur, with their figures. -/
theorem figures_rows (records : List OperationRecord) :
    (rows records).map (·.figures) = (names (groups records)).map (Figures.of records) := by
  unfold rows names
  rw [List.map_map, List.map_map]
  apply List.map_congr_left
  intro g hmem
  change (row g.1 g.2.toList).figures = Figures.of records g.1
  rw [(grouping records).own g hmem, figures_row]

theorem operations_rows (records : List OperationRecord) :
    (rows records).map (·.operation) = names (groups records) := by
  unfold rows names
  rw [List.map_map]
  rfl

/-- The figures of an operation do not depend on the order of the records. -/
theorem figures_perm (h : records.Perm other) : Figures.of records = Figures.of other := by
  funext name
  have htimes : (microsOf name records).Perm (microsOf name other) := (h.filter _).filterMap _
  simp only [Figures.of, h.countP_eq, min?_perm htimes, max?_perm htimes]

/-- Neither do the operations that occur, nor the order in which they are listed. -/
theorem names_perm (h : records.Perm other) :
    names (groups records) = names (groups other) := by
  have hsorted : ∀ records, (names (groups records)).Pairwise (· < ·) := fun records =>
    List.pairwise_map.mpr (grouping records).ascending
  have hnodup : ∀ records, (names (groups records)).Nodup := by
    intro records
    apply (hsorted records).imp
    rintro name _ hlt rfl
    exact String.lt_irrefl name hlt
  refine List.Perm.eq_of_pairwise ?_ (hsorted records) (hsorted other) ?_
  · intro a b _ _ hab hba
    exact absurd (String.lt_trans hab hba) (String.lt_irrefl a)
  · rw [List.perm_ext_iff_of_nodup (hnodup records) (hnodup other)]
    intro name
    rw [(grouping records).mem_names_iff, (grouping other).mem_names_iff]
    exact exists_congr fun r => and_congr_left' h.mem_iff

/-- **A summary neither loses nor invents operations.** Its rows are in strictly ascending order
of the bytes of their operations, one for each operation that occurs. Each has the figures of its
operation; the counts add up to those of all records. But for the averages, nothing in it depends
on the order of the records. -/
theorem rows_account (records : List OperationRecord) :
    ((rows records).map (·.operation)).Pairwise (fun a b => a.toUTF8.toList < b.toUTF8.toList) ∧
      (∀ name, name ∈ (rows records).map (·.operation) ↔ ∃ r ∈ records, r.operation = name) ∧
      (∀ row ∈ rows records, row.figures = Figures.of records row.operation) ∧
      ((rows records).map (·.total)).sum = records.length ∧
      ((rows records).map (·.errors)).sum = records.countP (·.failed) ∧
      ∀ other, records.Perm other →
        (rows other).map (·.figures) = (rows records).map (·.figures) := by
  have hgrouping := grouping records
  -- Sums over rows are sums over groups, which have been counted.
  have htotal : (rows records).map (·.total) =
      (groups records).map fun g => g.2.toList.countP fun _ => true := by
    unfold rows
    rw [List.map_map]
    apply List.map_congr_left
    intro g _
    exact (congrFun List.countP_true g.2.toList).symm
  have herrors : (rows records).map (·.errors) =
      (groups records).map fun g => g.2.toList.countP (·.failed) := by
    unfold rows
    rw [List.map_map]
    rfl
  refine ⟨?_, ?_, ?_, ?_, ?_, ?_⟩
  · rw [operations_rows]
    exact List.pairwise_map.mpr (hgrouping.ascending.imp toUTF8_lt_toUTF8)
  · intro name
    rw [operations_rows]
    exact hgrouping.mem_names_iff name
  · intro row hmem
    obtain ⟨g, hg, rfl⟩ := List.mem_map.mp hmem
    change (row g.1 g.2.toList).figures = Figures.of records g.1
    rw [hgrouping.own g hg, figures_row]
  · have hall := holding_groups (fun _ => true) records
    rw [List.countP_true] at hall
    rw [htotal]
    exact hall
  · rw [herrors]
    exact holding_groups (·.failed) records
  · intro other hperm
    rw [figures_rows, figures_rows, names_perm hperm, figures_perm hperm]

end Summary
end LoadMonitor
