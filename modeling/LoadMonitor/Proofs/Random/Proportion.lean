import LoadMonitor.Proofs.Random.Draw
import LoadMonitor.Proofs.Random.Widening
import LoadMonitor.Random.Choice

/-!
# Weighted choices are proportional

Among all words, those that pick an entry are as many as its weight times a share that is the
same for all entries. The entry is found here as a search through the boundaries between the
stretches finds it, so that entries with equal values are told apart.
-/

namespace LoadMonitor.WeightedChoice

variable {α : Type}

/-! ## Boundaries -/

/-- The numbers at which the stretch of one entry ends and that of the next begins, the first
stretch beginning at `start`. -/
def boundaries (start : Nat) : List (α × Nat) → List Nat
  | [] => []
  | [_] => []
  | (_, w) :: next :: rest => (start + w) :: boundaries (start + w) (next :: rest)

/-- The place of the entry into whose stretch the number falls: the boundaries up to the number
are those that lie before the stretch. -/
def placeOf (entries : List (α × Nat)) (start x : Nat) : Nat :=
  (boundaries start entries).countP (· ≤ x)

theorem placeOf_cons (entry next : α × Nat) (rest : List (α × Nat)) (start x : Nat) :
    placeOf (entry :: next :: rest) start x =
      placeOf (next :: rest) (start + entry.2) x + if start + entry.2 ≤ x then 1 else 0 := by
  simp [placeOf, boundaries, List.countP_cons]

theorem placeOf_of_lt (entries : List (α × Nat)) {start x : Nat} (h : x < start) :
    placeOf entries start x = 0 := by
  induction entries generalizing start with
  | nil => rfl
  | cons entry rest ih =>
      cases rest with
      | nil => rfl
      | cons next rest =>
          rw [placeOf_cons, ih (by omega), if_neg (by omega)]

/-- An entry has the place of a number exactly if the number falls into its stretch, which begins
behind the weights of the entries before it. -/
theorem placeOf_eq_iff {entries : List (α × Nat)} {start x i : Nat} {a : α} {w : Nat}
    (hstart : start ≤ x) (hx : x < start + totalWeight entries)
    (hentry : entries[i]? = some (a, w)) :
    placeOf entries start x = i ↔
      start + totalWeight (entries.take i) ≤ x ∧
        x < start + totalWeight (entries.take i) + w := by
  induction entries generalizing start i with
  | nil => cases hentry
  | cons entry rest ih =>
      obtain ⟨b, w'⟩ := entry
      cases rest with
      | nil =>
          obtain _ | i := i
          · obtain ⟨rfl, rfl⟩ := Prod.mk.inj (Option.some.inj hentry)
            simp_all [placeOf, boundaries, totalWeight]
          · cases hentry
      | cons next rest =>
          rw [placeOf_cons]
          -- Stretches behind the first entry begin later by its weight.
          have hlater : ∀ j, start + w' + totalWeight ((next :: rest).take j) =
              start + totalWeight (((b, w') :: next :: rest).take (j + 1)) := by
            intro j
            simp only [List.take_succ_cons, totalWeight]
            omega
          obtain _ | i := i
          · obtain ⟨rfl, rfl⟩ := Prod.mk.inj (Option.some.inj hentry)
            rw [List.take_zero, totalWeight, Nat.add_zero]
            by_cases hbefore : start + w' ≤ x
            · rw [if_pos hbefore]
              omega
            · rw [placeOf_of_lt _ (Nat.lt_of_not_le hbefore), if_neg hbefore]
              omega
          · by_cases hbefore : start + w' ≤ x
            · have hplace := ih hbefore (by simpa [totalWeight, Nat.add_assoc] using hx) hentry
              rw [hlater] at hplace
              rw [if_pos hbefore, Nat.add_right_cancel_iff]
              exact hplace
            · have htake := hlater i
              rw [placeOf_of_lt _ (Nat.lt_of_not_le hbefore), if_neg hbefore]
              omega

/-- The value of that entry is the one that is chosen. -/
theorem stretch_eq {entries : List (α × Nat)} {start x : Nat}
    (hstart : start ≤ x) (hx : x < start + totalWeight entries) :
    ∃ a w, entries[placeOf entries start x]? = some (a, w) ∧ 0 < w ∧
      stretch entries (x - start) = some a := by
  induction entries generalizing start with
  | nil => exact absurd hx (by simpa [totalWeight] using hstart)
  | cons entry rest ih =>
      obtain ⟨a, w⟩ := entry
      cases rest with
      | nil =>
          have hw : x - start < w := by
            simp only [totalWeight] at hx
            omega
          exact ⟨a, w, rfl, by omega, if_pos hw⟩
      | cons next rest =>
          rw [placeOf_cons]
          by_cases hbefore : start + w ≤ x
          · rw [if_pos hbefore]
            have hnot : ¬x - start < w := by omega
            obtain ⟨b, w', hentry, hw', hstretch⟩ :=
              ih hbefore (by simpa [totalWeight, Nat.add_assoc] using hx)
            refine ⟨b, w', hentry, hw', ?_⟩
            rw [stretch, if_neg hnot, Nat.sub_sub, hstretch]
          · rw [placeOf_of_lt _ (Nat.lt_of_not_le hbefore), if_neg hbefore]
            have hw : x - start < w := by omega
            exact ⟨a, w, rfl, by omega, if_pos hw⟩

/-! ## Shares -/

/-- The number of words for each unit of weight. -/
def share (total : Nat) : Nat := (Nat.pow 2 32 - Nat.pow 2 32 % total) / total

theorem share_mul (total : Nat) : share total * total = Nat.pow 2 32 - Nat.pow 2 32 % total := by
  have hdvd : total ∣ Nat.pow 2 32 - Nat.pow 2 32 % total := Nat.dvd_sub_mod _
  exact Nat.div_mul_cancel hdvd

theorem share_pos {total : Nat} (hpos : 0 < total) (htotal : total < Nat.pow 2 32) :
    0 < share total := by
  refine Nat.div_pos ?_ hpos
  have hparts := Nat.div_add_mod (Nat.pow 2 32) total
  have hquotient : total * 1 ≤ total * (Nat.pow 2 32 / total) :=
    Nat.mul_le_mul_left total (Nat.div_pos htotal.le hpos)
  omega

/-- The zone ends at the last multiple of the total weight. -/
theorem le_zone_iff {total n : Nat} (hpos : 0 < total) (htotal : total < Nat.pow 2 32) :
    n ≤ zone total ↔ n < share total * total := by
  have hmod : Nat.pow 2 32 % total = (Nat.pow 2 32 - total) % total :=
    Nat.mod_eq_sub_mod htotal.le
  have hlt : Nat.pow 2 32 % total < total := Nat.mod_lt _ hpos
  rw [share_mul, zone, ← hmod]
  omega

/-! ## Picks -/

/-- The place of the entry that the word picks, if the word is accepted. -/
def place? (s : WeightedChoice α) (v : Nat) : Option Nat :=
  if v * s.total % Nat.pow 2 32 ≤ zone s.total then
    some (placeOf s.entries 0 (v * s.total / Nat.pow 2 32))
  else none

/-- Every word picks entries by their weights. -/
structure Proportional (s : WeightedChoice α) : Prop where
  /-- A word is refused, or it picks an entry of positive weight and draws its value. -/
  picks : ∀ v < Nat.pow 2 32, (s.place? v = none ∧ s.pick v = none) ∨
    ∃ i a w, s.place? v = some i ∧ s.entries[i]? = some (a, w) ∧ 0 < w ∧ s.pick v = some a
  share_pos : 0 < share s.total
  /-- The words that pick an entry are its weight times the share. -/
  count : ∀ i a w, s.entries[i]? = some (a, w) →
    ((Finset.range (Nat.pow 2 32)).filter fun v => s.place? v = some i).card =
      w * share s.total
  /-- Whatever is drawn, from whatever source, is the value of an entry of positive weight. -/
  drawn : ∀ (ρ : Type) [RandomSource ρ] (patience : Nat),
    (s.draw patience : Gen ρ α).Yields fun a => ∃ w, (a, w) ∈ s.entries ∧ 0 < w

variable {s : WeightedChoice α} {v : Nat}

theorem upper_lt (hv : v < Nat.pow 2 32) :
    v * s.total / Nat.pow 2 32 < 0 + totalWeight s.entries := by
  rw [Nat.zero_add]
  exact Nat.div_lt_of_lt_mul (Nat.mul_lt_mul_of_pos_right hv s.total_pos)

theorem pick_eq (hv : v < Nat.pow 2 32) :
    (s.place? v = none ∧ s.pick v = none) ∨
      ∃ i a w, s.place? v = some i ∧ s.entries[i]? = some (a, w) ∧ 0 < w ∧
        s.pick v = some a := by
  by_cases hzone : v * s.total % Nat.pow 2 32 ≤ zone s.total
  · obtain ⟨a, w, hentry, hw, hstretch⟩ := stretch_eq (Nat.zero_le _) (upper_lt hv)
    exact .inr ⟨_, a, w, if_pos hzone, hentry, hw, (if_pos hzone).trans hstretch⟩
  · exact .inl ⟨if_neg hzone, if_neg hzone⟩

theorem take_weight_le {entries : List (α × Nat)} {i : Nat} {a : α} {w : Nat}
    (hentry : entries[i]? = some (a, w)) :
    totalWeight (entries.take i) + w ≤ totalWeight entries := by
  induction entries generalizing i with
  | nil => cases hentry
  | cons entry rest ih =>
      obtain _ | i := i
      · obtain rfl := Option.some.inj hentry
        simp [totalWeight]
      · have hrest := ih (i := i) hentry
        simp only [List.take_succ_cons, totalWeight]
        omega

/-- The words that pick an entry are those whose number falls into its stretch. -/
theorem card_place (htotal : s.total < Nat.pow 2 32) {i : Nat} {a : α} {w : Nat}
    (hentry : s.entries[i]? = some (a, w)) :
    ((Finset.range (Nat.pow 2 32)).filter fun v => s.place? v = some i).card =
      w * share s.total := by
  have hwords : share s.total * s.total ≤ Nat.pow 2 32 := by
    rw [share_mul]
    exact Nat.sub_le _ _
  have hcard : (Widening.accepted (Nat.pow 2 32) s.total (share s.total * s.total)
      (totalWeight (s.entries.take i)) (totalWeight (s.entries.take i) + w)).card =
        w * share s.total := by
    rw [Widening.card_accepted hwords (take_weight_le hentry), Nat.add_sub_cancel_left]
  rw [← hcard]
  refine congrArg Finset.card (Finset.filter_congr fun v hv => ?_)
  have hplace := placeOf_eq_iff (Nat.zero_le _) (upper_lt (Finset.mem_range.mp hv)) hentry
  rw [Nat.zero_add] at hplace
  have hzone : ∀ n, n ≤ zone s.total ↔ n < share s.total * s.total :=
    fun n => le_zone_iff s.total_pos htotal
  rw [place?, ← hplace, ← hzone]
  simp

theorem proportional (s : WeightedChoice α) (htotal : s.total < Nat.pow 2 32) :
    s.Proportional := by
  constructor
  case picks => exact fun v hv => pick_eq hv
  case share_pos => exact share_pos s.total_pos htotal
  case count => exact fun i a w hentry => card_place htotal hentry
  case drawn =>
    intro ρ _ patience
    refine Gen.word_yields.drawUntil (fun v a hv ha => ?_) patience
    rcases pick_eq hv with ⟨-, hnone⟩ | ⟨i, b, w, -, hentry, hw, hpick⟩
    · rw [hnone] at ha
      cases ha
    · obtain rfl := Option.some.inj (hpick.symm.trans ha)
      exact ⟨w, List.mem_of_getElem? hentry, hw⟩

/-- There is a choice among entries exactly if one of them has a positive weight, and it picks
every entry, wherever it stands, with as many words as its weight demands. -/
theorem proportional_of_entries (entries : List (α × Nat))
    (htotal : totalWeight entries < Nat.pow 2 32) :
    ((∃ s, ofEntries entries = .ok s) ↔ 0 < totalWeight entries) ∧
      ∀ s, ofEntries entries = .ok s → s.entries = entries ∧ s.Proportional := by
  by_cases hpos : 0 < totalWeight entries
  · have hchoice : ofEntries entries = .ok ⟨entries, hpos⟩ := dif_pos hpos
    refine ⟨iff_of_true ⟨_, hchoice⟩ hpos, ?_⟩
    intro s hs
    obtain rfl := Except.ok.inj (hchoice.symm.trans hs)
    exact ⟨rfl, proportional _ htotal⟩
  · have hnone : ∀ s, ofEntries entries ≠ .ok s := by
      intro s hs
      rw [ofEntries, dif_neg hpos] at hs
      cases hs
    exact ⟨iff_of_false (fun ⟨s, hs⟩ => hnone s hs) hpos, fun s hs => absurd hs (hnone s)⟩

/-- Entries without weight at both ends and in between. -/
def gaps : List (String × Nat) :=
  [("never", 0), ("often", 3), ("never", 0), ("never", 0), ("seldom", 1), ("never", 0)]

theorem proportional_of_entries_gaps :
    totalWeight gaps < Nat.pow 2 32 ∧ ∃ s, ofEntries gaps = .ok s ∧ s.Proportional ∧
      ((Finset.range (Nat.pow 2 32)).filter fun v => s.place? v = some 1).card = 3 * 1073741824 ∧
      ((Finset.range (Nat.pow 2 32)).filter fun v => s.place? v = some 3).card = 0 := by
  have htotal : totalWeight gaps < Nat.pow 2 32 := by decide
  obtain ⟨s, hs⟩ := (proportional_of_entries gaps htotal).1.mpr (by decide)
  obtain ⟨hentries, hproportional⟩ := (proportional_of_entries gaps htotal).2 s hs
  have hshare : share s.total = 1073741824 := by
    rw [total, hentries]
    decide
  refine ⟨htotal, s, hs, hproportional, ?_, ?_⟩
  · rw [hproportional.count 1 "often" 3 (by rw [hentries]; rfl), hshare]
  · rw [hproportional.count 3 "never" 0 (by rw [hentries]; rfl), Nat.zero_mul]

end LoadMonitor.WeightedChoice
