import LoadMonitor.Proofs.Binary64.Arithmetic
import LoadMonitor.Proofs.Report.Summary
import Mathlib.Data.List.Induction

/-!
# Averages and extremes

The average of times is a rounded quotient of a rounded sum, so it need not lie between the least
and the greatest of them. It does if the rounded sum and the number of times have a quotient that
is not rounded to anything outside, and in any case it is close.
-/

namespace LoadMonitor.Summary

variable {ts : List Binary64} {t s : Binary64}

/-! ## Times -/

/-- A double far beyond every time. -/
def ceiling : Binary64 := Binary64.assemble false 1200 0

/-- Whole microseconds in milliseconds are nothing at all, or else neither tiny nor enormous. -/
structure IsTime (t : Binary64) : Prop where
  nonneg : t.Nonneg
  sizable : t.magnitude = 0 ∨ Nat.pow 2 1000 ≤ t.magnitude
  modest : 2 * t.magnitude < Nat.pow 2 (ceiling.exponent - 1)

theorem isTime_inMilliseconds {n : Nat} (h : n ≤ Nat.pow 2 84) : IsTime (inMilliseconds n) where
  nonneg := by
    have hlongest : (inMilliseconds (Nat.pow 2 84)).Nonneg :=
      Binary64.nonneg_iff_bits_lt.mpr (by decide +kernel)
    exact hlongest.of_le (inMilliseconds_mono h)
  sizable := by
    have hzero : (inMilliseconds 0).magnitude = 0 := by decide +kernel
    have hone : Nat.pow 2 1000 ≤ (inMilliseconds 1).magnitude := by decide +kernel
    rcases Nat.eq_zero_or_pos n with rfl | hpos
    · exact .inl hzero
    · exact .inr (Nat.le_trans hone (((upright_inMilliseconds 1).magnitude_le_iff
        (upright_inMilliseconds n)).mpr (inMilliseconds_mono hpos)))
  modest := by
    have hlongest : 2 * (inMilliseconds (Nat.pow 2 84)).magnitude <
        Nat.pow 2 (ceiling.exponent - 1) := by decide +kernel
    have hle := ((upright_inMilliseconds n).magnitude_le_iff
      (upright_inMilliseconds (Nat.pow 2 84))).mpr (inMilliseconds_mono h)
    exact Nat.lt_of_le_of_lt (Nat.mul_le_mul_left 2 hle) hlongest

/-! ## Sums -/

theorem nonneg_ceiling : ceiling.Nonneg := Binary64.nonneg_iff_bits_lt.mpr (by decide +kernel)

/-- What becomes of times that are added up. -/
structure IsSum (s : Binary64) : Prop where
  sizable : s.magnitude = 0 ∨ Nat.pow 2 1000 ≤ s.magnitude
  bounded : s.bits.toNat ≤ ceiling.bits.toNat

theorem IsSum.nonneg (h : IsSum s) : s.Nonneg := nonneg_ceiling.of_le h.bounded

/-- However many times are added, rounding keeps the sum below the ceiling. -/
theorem IsSum.add (hs : IsSum s) (ht : IsTime t) : IsSum (s + t) := by
  have hupright := Binary64.upright_add hs.nonneg ht.nonneg
  constructor
  case sizable =>
    rcases ht.sizable with htzero | htsome
    · rcases hs.sizable with hszero | hssome
      · rw [Binary64.add_of_nonneg hs.nonneg ht.nonneg, hszero, htzero]
        exact .inl rfl
      · have hle := Binary64.le_add_left hs.nonneg ht.nonneg
        exact .inr (Nat.le_trans hssome ((hs.nonneg.upright.magnitude_le_iff hupright).mpr hle))
    · have hle := Binary64.le_add_right hs.nonneg ht.nonneg
      exact .inr (Nat.le_trans htsome ((ht.nonneg.upright.magnitude_le_iff hupright).mpr hle))
  case bounded =>
    exact Binary64.add_le_of_le hs.nonneg ht.nonneg nonneg_ceiling hs.bounded ht.modest

theorem IsSum.add_near (hs : IsSum s) (ht : IsTime t) :
    Binary64.Near (s + t).value (s.value + t.value) :=
  Binary64.add_near hs.nonneg ht.nonneg (hs.add ht).nonneg

theorem sum_append_singleton (ts : List Binary64) (t : Binary64) : sum (ts ++ [t]) = sum ts + t :=
  List.foldl_append

/-- A sum begins with zero. -/
theorem sum_nil : sum [] = Binary64.zero := by
  decide +kernel

theorem isSum_sum (h : ∀ t ∈ ts, IsTime t) : IsSum (sum ts) := by
  induction ts using List.reverseRecOn with
  | nil =>
      rw [sum_nil]
      exact ⟨.inl rfl, Nat.zero_le _⟩
  | append_singleton ts t ih =>
      rw [List.forall_mem_append, List.forall_mem_singleton] at h
      rw [sum_append_singleton]
      exact (ih h.1).add h.2

theorem value_sum_nil : (sum []).value = 0 := by
  rw [sum_nil]
  exact zero_div _

theorem roundoff_bounds : 0 ≤ Binary64.roundoff ∧ 0 ≤ 1 - Binary64.roundoff := by
  unfold Binary64.roundoff
  norm_num

/-- The sum of times, each rounded up at worst. -/
theorem sum_le (h : ∀ t ∈ ts, IsTime t) {g : ℚ} (hg : 0 ≤ g) (hle : ∀ t ∈ ts, t.value ≤ g) :
    (sum ts).value ≤ ts.length * g * (1 + Binary64.roundoff) ^ ts.length := by
  have hup : 1 ≤ 1 + Binary64.roundoff := le_add_of_nonneg_right roundoff_bounds.1
  induction ts using List.reverseRecOn with
  | nil =>
      rw [value_sum_nil, List.length_nil, Nat.cast_zero, zero_mul, zero_mul]
  | append_singleton ts t ih =>
      rw [List.forall_mem_append, List.forall_mem_singleton] at h hle
      -- A time that is added late is rounded less often, so this is generous.
      have hgrown : g ≤ g * (1 + Binary64.roundoff) ^ ts.length :=
        le_mul_of_one_le_right hg (one_le_pow₀ hup)
      rw [sum_append_singleton, List.length_append, List.length_singleton, pow_succ]
      calc (sum ts + t).value
        _ ≤ (1 + Binary64.roundoff) * ((sum ts).value + t.value) :=
          ((isSum_sum h.1).add_near h.2).2
        _ ≤ (1 + Binary64.roundoff) * (ts.length * g * (1 + Binary64.roundoff) ^ ts.length +
            g * (1 + Binary64.roundoff) ^ ts.length) :=
          mul_le_mul_of_nonneg_left (add_le_add (ih h.1 hle.1) (hle.2.trans hgrown))
            (zero_le_one.trans hup)
        _ = (ts.length + 1 : Nat) * g *
            ((1 + Binary64.roundoff) ^ ts.length * (1 + Binary64.roundoff)) := by
          push_cast
          ring

/-- The sum of times, each rounded down at worst. -/
theorem le_sum (h : ∀ t ∈ ts, IsTime t) {l : ℚ} (hl : 0 ≤ l) (hle : ∀ t ∈ ts, l ≤ t.value) :
    ts.length * l * (1 - Binary64.roundoff) ^ ts.length ≤ (sum ts).value := by
  have hdown := roundoff_bounds.2
  have hless : 1 - Binary64.roundoff ≤ 1 := sub_le_self 1 roundoff_bounds.1
  induction ts using List.reverseRecOn with
  | nil =>
      rw [value_sum_nil, List.length_nil, Nat.cast_zero, zero_mul, zero_mul]
  | append_singleton ts t ih =>
      rw [List.forall_mem_append, List.forall_mem_singleton] at h hle
      have hshrunk : l * (1 - Binary64.roundoff) ^ ts.length ≤ l :=
        mul_le_of_le_one_right hl (pow_le_one₀ hdown hless)
      rw [sum_append_singleton, List.length_append, List.length_singleton, pow_succ]
      calc ((ts.length + 1 : Nat) : ℚ) * l *
            ((1 - Binary64.roundoff) ^ ts.length * (1 - Binary64.roundoff))
        _ = (1 - Binary64.roundoff) * (ts.length * l * (1 - Binary64.roundoff) ^ ts.length +
            l * (1 - Binary64.roundoff) ^ ts.length) := by
          push_cast
          ring
        _ ≤ (1 - Binary64.roundoff) * ((sum ts).value + t.value) :=
          mul_le_mul_of_nonneg_left (add_le_add (ih h.1 hle.1) (hshrunk.trans hle.2)) hdown
        _ ≤ (sum ts + t).value := ((isSum_sum h.1).add_near h.2).1

/-! ## Averages -/

/-- What the average is rounded from: the rounded sum by the number of times, as a double too. -/
def mean (ts : List Binary64) : ℚ := (sum ts).value / (Binary64.ofNat ts.length).value

theorem average_eq (hne : ts ≠ []) : average ts = sum ts / Binary64.ofNat ts.length := by
  unfold average
  rw [if_neg (by rwa [List.isEmpty_iff])]

theorem magnitude_length_ne_zero (hne : ts ≠ []) : (Binary64.ofNat ts.length).magnitude ≠ 0 :=
  Nat.ne_of_gt (Nat.lt_of_lt_of_le Binary64.unit_pos
    (Binary64.unit_le_magnitude_ofNat (List.length_pos_of_ne_nil hne)))

/-- A sum that is exact has a mean between the extremes. -/
theorem mean_bounds (hne : ts ≠ []) (hlength : ts.length < Nat.pow 2 53)
    (hexact : (sum ts).value = (ts.map Binary64.value).sum) {l g : ℚ}
    (hl : ∀ t ∈ ts, l ≤ t.value) (hg : ∀ t ∈ ts, t.value ≤ g) : l ≤ mean ts ∧ mean ts ≤ g := by
  have hcount : (0 : ℚ) < ts.length := Nat.cast_pos.mpr (List.length_pos_of_ne_nil hne)
  have hlow := List.card_nsmul_le_sum (ts.map Binary64.value) l (List.forall_mem_map.mpr hl)
  have hhigh := List.sum_le_card_nsmul (ts.map Binary64.value) g (List.forall_mem_map.mpr hg)
  rw [List.length_map, nsmul_eq_mul, ← hexact] at hlow hhigh
  unfold mean
  rw [Binary64.value_ofNat hlength, le_div_iff₀ hcount, div_le_iff₀ hcount, mul_comm l, mul_comm g]
  exact ⟨hlow, hhigh⟩

section Average

variable (h : ∀ t ∈ ts, IsTime t) (hne : ts ≠ [])

include h hne

/-- Only the division is left when the average is compared with a double. -/
theorem le_average_iff (hlength : ts.length ≤ Nat.pow 2 64) {x : Binary64} (hx : x.Upright) :
    x.le (average ts) = true ↔ x.RoundsToAtLeast (mean ts) := by
  rw [average_eq hne]
  exact Binary64.le_div_iff (isSum_sum h).nonneg (Binary64.nonneg_ofNat hlength)
    (magnitude_length_ne_zero hne) hx

theorem average_le_iff (hlength : ts.length ≤ Nat.pow 2 64) {x : Binary64} (hx : x.Nonneg) :
    (average ts).le x = true ↔ x.RoundsToAtMost (mean ts) := by
  rw [average_eq hne]
  exact Binary64.div_le_iff (isSum_sum h).nonneg (Binary64.nonneg_ofNat hlength)
    (magnitude_length_ne_zero hne) hx

/-- The average is not beyond the sum. -/
theorem nonneg_average (hlength : ts.length ≤ Nat.pow 2 64) : (average ts).Nonneg := by
  have hsum := (isSum_sum h).nonneg
  rw [average_eq hne]
  exact hsum.of_le (Binary64.div_le_self hsum (Binary64.nonneg_ofNat hlength)
    (magnitude_length_ne_zero hne)
    (Binary64.unit_le_magnitude_ofNat (List.length_pos_of_ne_nil hne)))

theorem average_near (hlength : ts.length < Nat.pow 2 53) :
    Binary64.Near (average ts).value ((sum ts).value / ts.length) := by
  have hsum := isSum_sum h
  have hmany : ts.length ≤ Nat.pow 2 64 := Nat.le_trans (Nat.le_of_lt hlength) (by decide)
  have hfine : (sum ts).magnitude = 0 ∨ (Binary64.ofNat ts.length).magnitude * Nat.pow 2 52 ≤
      (sum ts).magnitude * Binary64.unit := by
    refine hsum.sizable.imp_right fun hsome => ?_
    rw [Binary64.magnitude_ofNat hlength, Nat.mul_right_comm]
    refine Nat.mul_le_mul_right _ (Nat.le_trans ?_ hsome)
    exact Nat.le_trans (Nat.mul_le_mul_right _ (Nat.le_of_lt hlength)) (by decide +kernel)
  have hnonneg := nonneg_average h hne hmany
  rw [average_eq hne] at hnonneg ⊢
  rw [← Binary64.value_ofNat hlength]
  exact Binary64.div_near hsum.nonneg (Binary64.nonneg_ofNat hmany) (magnitude_length_ne_zero hne)
    hfine hnonneg

theorem average_bounds (hlength : ts.length < Nat.pow 2 53) {l g : ℚ} (hnonneg : 0 ≤ l)
    (hl : ∀ t ∈ ts, l ≤ t.value) (hg : ∀ t ∈ ts, t.value ≤ g) :
    l * (1 - Binary64.roundoff) ^ (ts.length + 1) ≤ (average ts).value ∧
      (average ts).value ≤ g * (1 + Binary64.roundoff) ^ (ts.length + 1) := by
  have hcount : (0 : ℚ) < ts.length := Nat.cast_pos.mpr (List.length_pos_of_ne_nil hne)
  obtain ⟨hbelow, habove⟩ := average_near h hne hlength
  obtain ⟨t, hmem⟩ := List.exists_mem_of_ne_nil ts hne
  have hg0 : 0 ≤ g := (hnonneg.trans (hl t hmem)).trans (hg t hmem)
  constructor
  · calc l * (1 - Binary64.roundoff) ^ (ts.length + 1)
      _ = (1 - Binary64.roundoff) *
          (ts.length * l * (1 - Binary64.roundoff) ^ ts.length / ts.length) := by
        rw [pow_succ]
        field_simp
      _ ≤ (1 - Binary64.roundoff) * ((sum ts).value / ts.length) :=
        mul_le_mul_of_nonneg_left
          (div_le_div_of_nonneg_right (le_sum h hnonneg hl) hcount.le) roundoff_bounds.2
      _ ≤ (average ts).value := hbelow
  · calc (average ts).value
      _ ≤ (1 + Binary64.roundoff) * ((sum ts).value / ts.length) := habove
      _ ≤ (1 + Binary64.roundoff) *
          (ts.length * g * (1 + Binary64.roundoff) ^ ts.length / ts.length) :=
        mul_le_mul_of_nonneg_left
          (div_le_div_of_nonneg_right (sum_le h hg0 hg) hcount.le) (by linarith [roundoff_bounds.1])
      _ = g * (1 + Binary64.roundoff) ^ (ts.length + 1) := by
        rw [pow_succ]
        field_simp

end Average

/-! ## Extremes -/

section Extremes

variable {ns : List Nat} (hbound : ∀ n ∈ ns, n ≤ Nat.pow 2 84)

include hbound

theorem isTime_of_mem : ∀ t ∈ ns.map inMilliseconds, IsTime t :=
  List.forall_mem_map.mpr fun n hn => isTime_inMilliseconds (hbound n hn)

/-- The least time is a time, and no other one is less. -/
theorem isTime_least (hne : ns ≠ []) : IsTime (least (ns.map inMilliseconds)) ∧
    ∀ t ∈ ns.map inMilliseconds, (least (ns.map inMilliseconds)).value ≤ t.value := by
  obtain ⟨m, hm⟩ := Option.isSome_iff_exists.mp (List.isSome_min?_of_ne_nil hne)
  obtain ⟨hmem, hle⟩ := List.min?_eq_some_iff.mp hm
  rw [least_inMilliseconds, hm, Option.map_some, Option.getD_some]
  refine ⟨isTime_inMilliseconds (hbound m hmem), List.forall_mem_map.mpr fun n hn => ?_⟩
  rw [(upright_inMilliseconds m).value_le_iff (upright_inMilliseconds n)]
  exact inMilliseconds_mono (hle n hn)

/-- The greatest time is a time, and no other one is greater. -/
theorem isTime_greatest (hne : ns ≠ []) : IsTime (greatest (ns.map inMilliseconds)) ∧
    ∀ t ∈ ns.map inMilliseconds, t.value ≤ (greatest (ns.map inMilliseconds)).value := by
  obtain ⟨m, hm⟩ := Option.isSome_iff_exists.mp (List.isSome_max?_of_ne_nil hne)
  obtain ⟨hmem, hle⟩ := List.max?_eq_some_iff.mp hm
  rw [greatest_inMilliseconds, hm, Option.map_some, Option.getD_some]
  refine ⟨isTime_inMilliseconds (hbound m hmem), List.forall_mem_map.mpr fun n hn => ?_⟩
  rw [(upright_inMilliseconds n).value_le_iff (upright_inMilliseconds m)]
  exact inMilliseconds_mono (hle n hn)

end Extremes

/-! ## Rows -/

variable {records : List OperationRecord} {name : String}

/-- No call takes longer than the clock can tell. -/
def Measured (records : List OperationRecord) : Prop :=
  ∀ r ∈ records, ∀ d ∈ r.elapsed, d.secs < Nat.pow 2 64

theorem micros_le (h : Measured records) {n : Nat} (hmem : n ∈ microsOf name records) :
    n ≤ Nat.pow 2 84 := by
  obtain ⟨r, hr, hmicros⟩ := List.mem_filterMap.mp hmem
  obtain ⟨d, hd, rfl⟩ := Option.map_eq_some_iff.mp hmicros
  have hsecs := h r (List.mem_filter.mp hr).1 d hd
  unfold Duration.secs at hsecs
  unfold Duration.micros
  simp only [Nat.pow_eq, Nat.reducePow] at hsecs ⊢
  omega

theorem length_microsOf_le (name : String) (records : List OperationRecord) :
    (microsOf name records).length ≤ records.length :=
  Nat.le_trans (List.length_filterMap_le _ _) (List.length_filter_le _ _)

/-- A row is that of the records of its operation. -/
theorem row_eq {summary : OperationSummary} (h : summary ∈ rows records) :
    summary = row summary.operation (recordsOf summary.operation records) := by
  obtain ⟨g, hg, rfl⟩ := List.mem_map.mp h
  change row g.1 g.2.toList = row g.1 (recordsOf g.1 records)
  rw [(grouping records).own g hg]

/-- **The average of times lies between their extremes but for rounding.** In the row of an
operation for which times are known, the average is a finite double. It is not below the least time
just if the quotient of the rounded sum and the number of times is not rounded to a double below
it, and likewise for the greatest time. If the sum is exact, both hold. In any case the average is
outside by no more than rounding at each addition and at the division can do. -/
theorem average_between {summary : OperationSummary} {ts : List Binary64}
    (hmeasured : Measured records) (hcount : records.length < Nat.pow 2 64)
    (hrow : summary ∈ rows records) (htimes : timesOf summary.operation records = ts)
    (hne : ts ≠ []) :
    summary.average.isFinite = true ∧
      (summary.least.le summary.average = true ↔ summary.least.RoundsToAtLeast (mean ts)) ∧
      (summary.average.le summary.greatest = true ↔ summary.greatest.RoundsToAtMost (mean ts)) ∧
      (ts.length < Nat.pow 2 53 →
        ((sum ts).value = (ts.map Binary64.value).sum →
          summary.least.le summary.average = true ∧
            summary.average.le summary.greatest = true) ∧
        summary.least.value * (1 - Binary64.roundoff) ^ (ts.length + 1) ≤ summary.average.value ∧
        summary.average.value ≤
          summary.greatest.value * (1 + Binary64.roundoff) ^ (ts.length + 1)) := by
  have hfigures : summary.average = average ts ∧ summary.least = least ts ∧
      summary.greatest = greatest ts := by
    rw [row_eq hrow, ← htimes]
    exact ⟨rfl, rfl, rfl⟩
  obtain ⟨haverage, hleast, hgreatest⟩ := hfigures
  rw [timesOf_eq] at htimes
  -- All times can be told, and there is at least one of them.
  have hbound : ∀ n ∈ microsOf summary.operation records, n ≤ Nat.pow 2 84 :=
    fun n hn => micros_le hmeasured hn
  have hsome : microsOf summary.operation records ≠ [] := by
    intro hnone
    rw [hnone] at htimes
    exact hne htimes.symm
  have hlength : ts.length ≤ Nat.pow 2 64 := by
    have hle := length_microsOf_le summary.operation records
    rw [← htimes, List.length_map]
    omega
  have htime : ∀ t ∈ ts, IsTime t := htimes ▸ isTime_of_mem hbound
  obtain ⟨hlow, hl⟩ := htimes ▸ isTime_least hbound hsome
  obtain ⟨hhigh, hg⟩ := htimes ▸ isTime_greatest hbound hsome
  have hfinite := (nonneg_average htime hne hlength).isFinite_eq
  have hfirst := le_average_iff htime hne hlength hlow.nonneg.upright
  have hsecond := average_le_iff htime hne hlength hhigh.nonneg
  rw [haverage, hleast, hgreatest]
  refine ⟨hfinite, hfirst, hsecond, fun hfew => ⟨fun hexact => ?_, ?_⟩⟩
  · obtain ⟨hleft, hright⟩ := mean_bounds hne hfew hexact hl hg
    exact ⟨hfirst.mpr (hlow.nonneg.upright.roundsToAtLeast hleft),
      hsecond.mpr (hhigh.nonneg.upright.roundsToAtMost hright)⟩
  · exact average_bounds htime hne hfew hlow.nonneg.upright.value_nonneg hl hg

/-! ## Equal times -/

/-- Calls that take a hundred microseconds each. -/
def calls (n : Nat) : List OperationRecord :=
  List.replicate n ⟨"post_logs", false, some ⟨100000⟩⟩

theorem measured_calls (n : Nat) : Measured (calls n) := by
  intro r hr d hd
  rw [List.eq_of_mem_replicate hr, Option.mem_some_iff] at hd
  rw [← hd]
  decide

/-- The average of three equal times is above them, by no more than rounding four times can do. -/
theorem average_between_three :
    Measured (calls 3) ∧ (calls 3).length < Nat.pow 2 64 ∧
    row "post_logs" (calls 3) ∈ rows (calls 3) ∧
    timesOf "post_logs" (calls 3) = List.replicate 3 (inMilliseconds 100) ∧
    ¬(row "post_logs" (calls 3)).greatest.RoundsToAtMost
      (mean (List.replicate 3 (inMilliseconds 100))) ∧
    (row "post_logs" (calls 3)).average.value ≤
      (row "post_logs" (calls 3)).greatest.value * (1 + Binary64.roundoff) ^ 4 := by
  have hrow : row "post_logs" (calls 3) ∈ rows (calls 3) := by decide +kernel
  have htimes : timesOf "post_logs" (calls 3) = List.replicate 3 (inMilliseconds 100) := by
    decide +kernel
  obtain ⟨-, -, habove, hclose⟩ := average_between (measured_calls 3) (by decide) hrow htimes
    (List.cons_ne_nil _ _)
  refine ⟨measured_calls 3, by decide, hrow, htimes, ?_, (hclose (by decide)).2.2⟩
  rw [← habove, Bool.not_eq_true]
  decide +kernel

/-- Equal times may have an average above them, as three of a hundred microseconds do, or below
them, as ten of these do. -/
theorem average_outside :
    (¬∀ (records : List OperationRecord) (summary : OperationSummary), summary ∈ rows records →
      timesOf summary.operation records ≠ [] → summary.average.le summary.greatest = true) ∧
    ¬∀ (records : List OperationRecord) (summary : OperationSummary), summary ∈ rows records →
      timesOf summary.operation records ≠ [] → summary.least.le summary.average = true := by
  constructor
  · intro habove
    have hthree := habove (calls 3) (row "post_logs" (calls 3)) (by decide +kernel)
      (by decide +kernel)
    exact absurd hthree (by decide +kernel)
  · intro hbelow
    have hten := hbelow (calls 10) (row "post_logs" (calls 10)) (by decide +kernel)
      (by decide +kernel)
    exact absurd hten (by decide +kernel)

end LoadMonitor.Summary
