import LoadMonitor.Log.Generator
import LoadMonitor.Proofs.Binary64.Rounding
import LoadMonitor.Proofs.Random.Draw
import LoadMonitor.Proofs.Random.Widening
import Mathlib.Algebra.BigOperators.Fin
import Mathlib.Data.Nat.Prime.Basic
import Mathlib.Logic.Equiv.Fin.Basic

/-!
# Uniform choices are fair

Of all words of a width, every value of a uniform choice has the same number: a power of two, one
factor for each leading zero of the number of values. At least half of the words have a value. From
the single words this goes over to whole draws: among all sequences of words that a draw may look
at, every value is drawn by equally many of them.
-/

namespace LoadMonitor

/-! ## Even shares of the words -/

/-- Every value has the same share of the words, and no word has any other value. -/
structure EvenShares {α : Type} [DecidableEq α] (words share : Nat) (value? : Nat → Option α)
    (values : Finset α) : Prop where
  inside : ∀ v < words, ∀ a, value? v = some a → a ∈ values
  count : ∀ a ∈ values, ((Finset.range words).filter fun v => value? v = some a).card = share

/-- The sequences of so many words in which the first word that has a value has the given one. -/
def sequencesTo {α : Type} [DecidableEq α] (words length : Nat) (value? : Nat → Option α) (a : α) :
    Finset (Fin length → Fin words) :=
  Finset.univ.filter fun f => (List.ofFn fun i => (f i).val).findSome? value? = some a

namespace EvenShares

variable {α β : Type} [DecidableEq α] [DecidableEq β] {words share : Nat} {value? : Nat → Option α}
  {values : Finset α}

/-- The words that have a value are shared out among the values. -/
theorem card_isSome (h : EvenShares words share value? values) :
    ((Finset.range words).filter fun v => (value? v).isSome).card = values.card * share := by
  have hmaps : ∀ v ∈ (Finset.range words).filter fun v => (value? v).isSome,
      value? v ∈ values.map Function.Embedding.some := by
    intro v hv
    obtain ⟨hlt, hsome⟩ := Finset.mem_filter.mp hv
    obtain ⟨a, ha⟩ := Option.isSome_iff_exists.mp hsome
    rw [ha, Finset.mem_map]
    exact ⟨a, h.inside v (Finset.mem_range.mp hlt) a ha, rfl⟩
  rw [Finset.card_eq_sum_card_fiberwise hmaps, Finset.sum_map]
  apply Finset.sum_const_nat
  intro a ha
  rw [← h.count a ha, Finset.filter_filter]
  refine congrArg Finset.card (Finset.filter_congr fun v _ => and_iff_right_of_imp fun hv => ?_)
  rw [hv, Function.Embedding.some_apply, Option.isSome_some]

/-- Values under other names have the same words. -/
theorem map (h : EvenShares words share value? values) (f : α ↪ β) :
    EvenShares words share (fun v => (value? v).map f) (values.map f) := by
  constructor
  case inside =>
    intro v hv b hb
    obtain ⟨a, ha, rfl⟩ := Option.map_eq_some_iff.mp hb
    exact Finset.mem_map_of_mem f (h.inside v hv a ha)
  case count =>
    intro b hb
    obtain ⟨a, ha, rfl⟩ := Finset.mem_map.mp hb
    rw [← h.count a ha]
    refine congrArg Finset.card (Finset.filter_congr fun v _ => ?_)
    rw [← Option.map_some, (Option.map_injective f.injective).eq_iff]

/-! ## Sequences of words -/

omit [DecidableEq α] in
/-- The value of a sequence is that of its first word, or that of the others if it has none. -/
theorem findSome?_cons {length : Nat} (v : Fin words) (f : Fin length → Fin words) :
    (List.ofFn fun i => ((Fin.cons v f : Fin (length + 1) → Fin words) i).val).findSome? value? =
      (value? v).or ((List.ofFn fun i => (f i).val).findSome? value?) := by
  rw [List.ofFn_succ, List.findSome?_cons]
  simp only [Fin.cons_zero, Fin.cons_succ]
  cases value? v <;> rfl

/-- A sequence has a value by its first word, or its first word has none and the others have it. -/
theorem card_sequencesTo_succ (length : Nat) (a : α) :
    (sequencesTo words (length + 1) value? a).card =
      ((Finset.range words).filter fun v => value? v = some a).card * words ^ length +
        ((Finset.range words).filter fun v => value? v = none).card *
          (sequencesTo words length value? a).card := by
  -- For a fixed first word: all continuations count, or those that have the value, or none.
  have hfirst : ∀ v : Fin words, (Finset.univ.filter fun f : Fin length → Fin words =>
      (value? v).or ((List.ofFn fun i => (f i).val).findSome? value?) = some a).card =
        (if value? v = some a then words ^ length else 0) +
          if value? v = none then (sequencesTo words length value? a).card else 0 := by
    intro v
    cases hv : value? v with
    | none =>
        rw [if_neg nofun, if_pos rfl, Nat.zero_add]
        exact congrArg Finset.card (Finset.filter_congr fun f _ => Iff.rfl)
    | some b => by_cases hb : b = a <;> simp [hb]
  rw [sequencesTo, Finset.card_filter,
    ← (Fin.consEquiv fun _ => Fin words).sum_comp, Fintype.sum_prod_type]
  simp only [Fin.consEquiv_apply, findSome?_cons, ← Finset.card_filter, hfirst,
    Finset.sum_add_distrib]
  rw [Fin.sum_univ_eq_sum_range (fun v => if value? v = some a then words ^ length else 0) words,
    Fin.sum_univ_eq_sum_range
      (fun v => if value? v = none then (sequencesTo words length value? a).card else 0) words,
    ← Finset.sum_filter, ← Finset.sum_filter, Finset.sum_const, Finset.sum_const, smul_eq_mul,
    smul_eq_mul]

/-- Every value is that of equally many sequences. -/
theorem card_sequencesTo_eq (h : EvenShares words share value? values) (length : Nat) {a b : α}
    (ha : a ∈ values) (hb : b ∈ values) :
    (sequencesTo words length value? a).card = (sequencesTo words length value? b).card := by
  induction length with
  | zero => simp [sequencesTo]
  | succ length ih =>
      rw [card_sequencesTo_succ, card_sequencesTo_succ, h.count a ha, h.count b hb, ih]

end EvenShares

/-! ## Leading zeros -/

/-- The zeros before the first one, where a number is written with `width` bits. -/
def leadingZeros (width count : Nat) : Nat := (BitVec.ofNat width count).clz.toNat

theorem leadingZeros_add_bitLength {width count : Nat} (hpos : 0 < count)
    (hwidth : count < 2 ^ width) :
    leadingZeros width count + Binary64.bitLength count = width := by
  have htoNat : (BitVec.ofNat width count).toNat = count := by
    rw [BitVec.toNat_ofNat, Nat.mod_eq_of_lt hwidth]
  have hne : BitVec.ofNat width count ≠ 0 := by
    intro hzero
    rw [hzero] at htoNat
    exact Nat.ne_of_lt hpos htoNat
  have hwide : 0 < width := by
    rw [Nat.pos_iff_ne_zero]
    rintro rfl
    omega
  have hzeros : leadingZeros width count < width := by
    have hlt := BitVec.lt_def.mp (BitVec.clz_lt_iff_ne_zero.mpr hne)
    rwa [BitVec.natCast_eq_ofNat, BitVec.toNat_ofNat, Nat.mod_eq_of_lt Nat.lt_two_pow_self] at hlt
  -- The number lies between two neighbouring powers of two.
  have hlower := BitVec.two_pow_sub_clz_le_toNat_of_ne_zero hwide hne
  have hupper := BitVec.toNat_lt_two_pow_sub_clz (x := BitVec.ofNat width count)
  rw [htoNat, ← Nat.not_lt, ← Binary64.bitLength_le_iff] at hlower
  rw [htoNat, ← Binary64.bitLength_le_iff] at hupper
  unfold leadingZeros at hzeros ⊢
  omega

/-- Shifted by its leading zeros, a number has its top bit where the word has it. -/
theorem shifted_bounds {width count : Nat} (hpos : 0 < count) (hwidth : count < 2 ^ width) :
    2 ^ width ≤ 2 * (count * 2 ^ leadingZeros width count) ∧
      count * 2 ^ leadingZeros width count < 2 ^ width := by
  have hsum := leadingZeros_add_bitLength hpos hwidth
  have hupper := (Binary64.bitLength_le_iff count _).mp (Nat.le_refl _)
  have hlower : 2 ^ Binary64.bitLength count ≤ 2 * count := by
    have hnot := (Binary64.bitLength_le_iff count (Binary64.bitLength count - 1)).not
    have hlength := (Binary64.bitLength_le_iff count 0).not
    obtain ⟨k, hk⟩ : ∃ k, Binary64.bitLength count = k + 1 :=
      Nat.exists_eq_succ_of_ne_zero (by omega)
    rw [hk, Nat.add_sub_cancel] at hnot
    rw [hk, Nat.pow_succ]
    omega
  have hshift : 0 < 2 ^ leadingZeros width count := Nat.two_pow_pos _
  have hpow : 2 ^ width = 2 ^ Binary64.bitLength count * 2 ^ leadingZeros width count := by
    rw [← Nat.pow_add, Nat.add_comm, hsum]
  rw [hpow, ← Nat.mul_assoc]
  exact ⟨Nat.mul_le_mul_right _ hlower, Nat.mul_lt_mul_of_pos_right hupper hshift⟩

/-- The shifted number is half of the word's range exactly for powers of two. -/
theorem shifted_eq_half_iff {width count : Nat} (hpos : 0 < count) (hwidth : count < 2 ^ width) :
    2 * (count * 2 ^ leadingZeros width count) = 2 ^ width ↔ ∃ k, count = 2 ^ k := by
  obtain ⟨hlower, hupper⟩ := shifted_bounds hpos hwidth
  constructor
  · intro heq
    have hdvd : count ∣ 2 ^ width := by
      rw [← heq, Nat.mul_left_comm]
      exact Nat.dvd_mul_right _ _
    obtain ⟨k, -, hk⟩ := (Nat.dvd_prime_pow Nat.prime_two).mp hdvd
    exact ⟨k, hk⟩
  · rintro ⟨k, rfl⟩
    rw [← Nat.pow_add, ← Nat.pow_succ'] at hlower ⊢
    rw [← Nat.pow_add] at hupper
    rw [Nat.pow_le_pow_iff_right (by decide)] at hlower
    rw [Nat.pow_lt_pow_iff_right (by decide)] at hupper
    exact congrArg (2 ^ ·) (Nat.le_antisymm hupper hlower)

/-! ## Fair choices -/

/-- A choice by words of so many bits: every value has equally many of them, and at least half of
them have a value. -/
structure Fair {α : Type} [DecidableEq α] (width : Nat) (value? : Nat → Option α)
    (values : Finset α) : Prop where
  shares : EvenShares (2 ^ width) (2 ^ leadingZeros width values.card) value? values
  /-- Half of the words have a value, or more. -/
  half : 2 ^ width ≤ 2 * ((Finset.range (2 ^ width)).filter fun v => (value? v).isSome).card
  /-- It is not more exactly if the number of values is a power of two. -/
  half_iff : 2 * ((Finset.range (2 ^ width)).filter fun v => (value? v).isSome).card = 2 ^ width ↔
    ∃ k, values.card = 2 ^ k
  /-- However many words may be looked at, all values are equally likely. -/
  likely : ∀ length, ∀ a ∈ values, ∀ b ∈ values,
    (sequencesTo (2 ^ width) length value? a).card = (sequencesTo (2 ^ width) length value? b).card

namespace Fair

variable {α β : Type} [DecidableEq α] [DecidableEq β] {width : Nat} {value? : Nat → Option α}
  {values : Finset α}

theorem of_shares (hpos : 0 < values.card) (hwidth : values.card < 2 ^ width)
    (h : EvenShares (2 ^ width) (2 ^ leadingZeros width values.card) value? values) :
    Fair width value? values := by
  constructor
  case shares => exact h
  case half => exact h.card_isSome ▸ (shifted_bounds hpos hwidth).1
  case half_iff => exact h.card_isSome ▸ shifted_eq_half_iff hpos hwidth
  case likely => exact fun length a ha b hb => h.card_sequencesTo_eq length ha hb

end Fair

namespace Uniform

/-! ## Words and numbers -/

/-- The number below `count` for each word: the words that are accepted are counted. -/
theorem evenShares_accept {width count : Nat} (hpos : 0 < count) (hwidth : count < 2 ^ width) :
    EvenShares (2 ^ width) (2 ^ leadingZeros width count) (accept width count)
      (Finset.range count) := by
  have hsum := leadingZeros_add_bitLength hpos hwidth
  obtain ⟨-, hshifted⟩ := shifted_bounds hpos hwidth
  -- The zone is the greatest remainder that is accepted.
  have hzone : ∀ n, n ≤ zone width count ↔ n < 2 ^ leadingZeros width count * count := by
    intro n
    have hzeros : width - Binary64.bitLength count = leadingZeros width count := by omega
    have hshift : 0 < count * 2 ^ leadingZeros width count :=
      Nat.mul_pos hpos (Nat.two_pow_pos _)
    rw [zone, hzeros, Nat.pow_eq, Nat.mul_comm (2 ^ _)]
    omega
  constructor
  case inside =>
    intro v hv i hi
    exact Finset.mem_range.mpr (accept_lt hv hi hpos)
  case count =>
    intro i hi
    rw [Nat.mul_comm] at hshifted
    refine Eq.trans (congrArg Finset.card (Finset.filter_congr fun v _ => ?_))
      (Widening.card_accepted_number (Nat.le_of_lt hshifted) (Finset.mem_range.mp hi))
    simp only [accept, Nat.pow_eq, hzone, Option.ite_none_right_eq_some, Option.some.injEq]
    omega

/-- The number from `low` to `high` that a word stands for, if the word is accepted. -/
def number? (width low high v : Nat) : Option Nat :=
  (accept width (high + 1 - low) v).map (low + ·)

/-- The member of a list that a word stands for, if the word is accepted. -/
def item? {α : Type} (items : List α) (v : Nat) : Option α :=
  (accept 32 items.length v).bind fun i => items[i]?

theorem fair_number {width low high : Nat} (hle : low ≤ high) (hwidth : high + 1 - low < 2 ^ width) :
    Fair width (number? width low high) (Finset.Icc low high) := by
  have hcard : (Finset.Icc low high).card = high + 1 - low := Nat.card_Icc low high
  have hvalues : (Finset.range (high + 1 - low)).map (addLeftEmbedding low) =
      Finset.Icc low high := by
    ext n
    simp only [Finset.mem_map, Finset.mem_range, addLeftEmbedding_apply, Finset.mem_Icc]
    exact ⟨by omega, fun h => ⟨n - low, by omega⟩⟩
  refine .of_shares (by omega) (by omega) ?_
  rw [hcard, ← hvalues]
  exact (evenShares_accept (by omega) hwidth).map (addLeftEmbedding low)

/-- Members of a list are told apart if none is there twice. -/
theorem fair_item {α : Type} [DecidableEq α] {items : List α} (hne : items ≠ [])
    (hnodup : items.Nodup) (hlength : items.length < 2 ^ 32) :
    Fair 32 (item? items) items.toFinset := by
  have hcard : items.toFinset.card = items.length := List.toFinset_card_of_nodup hnodup
  have hpos : 0 < items.length := List.length_pos_iff.mpr hne
  have heven := evenShares_accept hpos hlength
  refine .of_shares (by omega) (by omega) ?_
  rw [hcard]
  constructor
  case inside =>
    intro v _ a ha
    obtain ⟨i, -, hi⟩ := Option.bind_eq_some_iff.mp ha
    exact List.mem_toFinset.mpr (List.mem_of_getElem? hi)
  case count =>
    intro a ha
    obtain ⟨i, hi, rfl⟩ := List.mem_iff_getElem.mp (List.mem_toFinset.mp ha)
    rw [← heven.count i (Finset.mem_range.mpr hi)]
    refine congrArg Finset.card (Finset.filter_congr fun v hv => ?_)
    -- The place of a member is determined, since it is not there twice.
    constructor
    · intro hitem
      obtain ⟨j, hj, hitem⟩ := Option.bind_eq_some_iff.mp hitem
      rw [← List.getElem?_eq_getElem hi, eq_comm, List.getElem?_inj hi hnodup] at hitem
      rw [hj, hitem]
    · intro hj
      rw [item?, hj, Option.bind_some, List.getElem?_eq_getElem hi]

end Uniform

/-! ## Draws -/

namespace Gen

variable {ρ α β : Type}

/-- Words are drawn until one of them has a value, in a fair choice: from every source, it is the
value of the first word that has one. -/
def DrawsFairly [DecidableEq α] (g : Gen ρ α) (width : Nat) (draw : Gen ρ Nat)
    (values : Finset α) : Prop :=
  ∃ value? patience, Fair width value? values ∧ g = drawUntil draw value? patience ∧
    ∀ s, (g.run s).map Prod.fst =
      ((repeated patience draw).run s).bind fun words => words.1.findSome? value?

/-- The words that are looked at are found in the source if words never run out. -/
theorem drawUntil_value {draw : Gen ρ Nat} (hdraw : ∀ s, ∃ word, draw.run s = some word)
    (value? : Nat → Option α) (patience : Nat) (s : ρ) :
    ((drawUntil draw value? patience).run s).map Prod.fst =
      ((repeated patience draw).run s).bind fun words => words.1.findSome? value? := by
  have hrepeated : ∀ n s, ∃ words, (repeated n draw).run s = some words := by
    intro n
    induction n with
    | zero => exact fun s => ⟨_, rfl⟩
    | succ n ih =>
        intro s
        obtain ⟨⟨v, s₁⟩, hv⟩ := hdraw s
        obtain ⟨⟨vs, s₂⟩, hvs⟩ := ih s₁
        refine ⟨(v :: vs, s₂), ?_⟩
        simp [repeated, hv, hvs]
  -- Words that are drawn ahead of need are never looked at, but they have to be there.
  induction patience generalizing s with
  | zero => rfl
  | succ patience ih =>
      obtain ⟨⟨v, s₁⟩, hv⟩ := hdraw s
      obtain ⟨⟨vs, s₂⟩, hvs⟩ := hrepeated patience s₁
      cases hvalue : value? v with
      | some a => simp [drawUntil, repeated, hv, hvs, hvalue]
      | none =>
          have hrest := ih s₁
          simp only [hvs] at hrest
          simp [drawUntil, repeated, hv, hvs, hvalue, hrest]

/-- A value that is drawn can be given another name in each round of the loop. -/
theorem map_drawUntil (draw : Gen ρ Nat) (value? : Nat → Option α) (f : α → β) (patience : Nat) :
    (do return f (← drawUntil draw value? patience)) =
      drawUntil draw (fun v => (value? v).map f) patience := by
  induction patience with
  | zero => rfl
  | succ patience ih =>
      unfold drawUntil
      rw [bind_assoc]
      refine bind_congr fun v => ?_
      cases value? v with
      | some a => exact pure_bind _ _
      | none => exact ih

theorem drawsFairly_drawUntil [DecidableEq α] {width : Nat} {draw : Gen ρ Nat}
    (hdraw : ∀ s, ∃ word, draw.run s = some word) {value? : Nat → Option α} {values : Finset α}
    (h : Fair width value? values) (patience : Nat) :
    (drawUntil draw value? patience).DrawsFairly width draw values :=
  ⟨value?, patience, h, rfl, drawUntil_value hdraw value? patience⟩

variable [RandomSource ρ]

theorem exists_word (s : ρ) : ∃ w, (word : Gen ρ Nat).run s = some w := ⟨_, rfl⟩

theorem exists_doubleWord (s : ρ) : ∃ w, (doubleWord : Gen ρ Nat).run s = some w := ⟨_, rfl⟩

end Gen

namespace Uniform

variable {ρ α : Type} [RandomSource ρ]

theorem between_fair {low high : Nat} (hle : low ≤ high) (hwidth : high + 1 - low < 2 ^ 32)
    (patience : Nat) : (between patience low high : Gen ρ Nat).DrawsFairly 32 Gen.word
      (Finset.Icc low high) := by
  rw [between, Gen.map_drawUntil]
  exact Gen.drawsFairly_drawUntil Gen.exists_word (fair_number hle hwidth) patience

theorem betweenWide_fair {low high : Nat} (hle : low ≤ high) (hwidth : high + 1 - low < 2 ^ 64)
    (patience : Nat) : (betweenWide patience low high : Gen ρ Nat).DrawsFairly 64 Gen.doubleWord
      (Finset.Icc low high) := by
  rw [betweenWide, Gen.map_drawUntil]
  exact Gen.drawsFairly_drawUntil Gen.exists_doubleWord (fair_number hle hwidth) patience

theorem choose_fair [DecidableEq α] {items : List α} (hne : items ≠ []) (hnodup : items.Nodup)
    (hlength : items.length < 2 ^ 32) (patience : Nat) :
    (choose patience items : Gen ρ α).DrawsFairly 32 Gen.word items.toFinset :=
  Gen.drawsFairly_drawUntil Gen.exists_word (fair_item hne hnodup hlength) patience

end Uniform

/-! ## Generated log lines and queries -/

namespace Generator

/-- All that is chosen for log lines and queries without weights is chosen fairly. -/
structure ChoosesFairly (ρ : Type) [RandomSource ρ] (patience : Nat) : Prop where
  batch : ∃ size : Gen ρ Nat, size.DrawsFairly 64 Gen.doubleWord (Finset.Icc 10 50) ∧
    Generator.batch patience = do Gen.repeated (← size) (Generator.line patience)
  line : ∃ (userId durationMs : Gen ρ Nat) (activity service : Gen ρ String),
    userId.DrawsFairly 32 Gen.word (Finset.Icc 1000 9999) ∧
    durationMs.DrawsFairly 32 Gen.word (Finset.Icc 10 500) ∧
    activity.DrawsFairly 32 Gen.word activities.toFinset ∧
    service.DrawsFairly 32 Gen.word services.toFinset ∧
    Generator.line patience = do
      let level ← level patience
      let userId ← userId
      let durationMs ← durationMs
      let activity ← activity
      let service ← service
      return {
        level
        message := "Normal operation log - " ++ activity
        service
        attributes := .ofList
          [("user_id", .integer userId), ("duration_ms", .integer durationMs),
            ("status", .string (statusOf level))] }
  burst : ∃ size : Gen ρ Nat, size.DrawsFairly 64 Gen.doubleWord (Finset.Icc 500 1000) ∧
    Generator.burst patience = do
      let size ← size
      Gen.repeated size (Generator.burstLine patience size)
  burstLine : ∃ level : Gen ρ LogLevel, level.DrawsFairly 32 Gen.word burstLevels.toFinset ∧
    ∀ size, Generator.burstLine patience size = do
      let level ← level
      return {
        level
        message := "High load test log"
        service := burstService
        attributes := .ofList [("load_test", .bool true), ("batch_size", .integer size)] }
  query : (Generator.query patience : Gen ρ String).DrawsFairly 32 Gen.word queries.toFinset

theorem choosesFairly (ρ : Type) [RandomSource ρ] (patience : Nat) :
    ChoosesFairly ρ patience where
  batch := ⟨_, Uniform.betweenWide_fair (by decide) (by decide) patience, rfl⟩
  line := ⟨_, _, _, _, Uniform.between_fair (by decide) (by decide) patience,
    Uniform.between_fair (by decide) (by decide) patience,
    Uniform.choose_fair (by decide) (by decide) (by decide) patience,
    Uniform.choose_fair (by decide) (by decide) (by decide) patience, rfl⟩
  burst := ⟨_, Uniform.betweenWide_fair (by decide) (by decide) patience, rfl⟩
  burstLine :=
    ⟨_, Uniform.choose_fair (by decide) (by decide) (by decide) patience, fun _ => rfl⟩
  query := Uniform.choose_fair (by decide) (by decide) (by decide) patience

end Generator

namespace Uniform

/-- **Uniform choices are fair.** Of the words of any width that is enough, each number of a range
has as many as two to the power of the leading zeros of the length of the range, no word has a
number outside, and half of the words have a number or more. So do numbers from words and from
double words, and all that is chosen for log lines and queries. -/
theorem fair_of_range {width low high : Nat} (hle : low ≤ high)
    (hwidth : high + 1 - low < 2 ^ width) :
    Fair width (number? width low high) (Finset.Icc low high) ∧
      ∀ (ρ : Type) [RandomSource ρ] (patience : Nat),
        (width = 32 → (between patience low high : Gen ρ Nat).DrawsFairly width Gen.word
          (Finset.Icc low high)) ∧
        (width = 64 → (betweenWide patience low high : Gen ρ Nat).DrawsFairly width Gen.doubleWord
          (Finset.Icc low high)) ∧
        Generator.ChoosesFairly ρ patience := by
  refine ⟨fair_number hle hwidth, fun ρ _ patience => ⟨?_, ?_, Generator.choosesFairly ρ patience⟩⟩
  · rintro rfl
    exact between_fair hle hwidth patience
  · rintro rfl
    exact betweenWide_fair hle hwidth patience

/-- A user has one of 9000 numbers, which take 14 of 32 bits. -/
theorem fair_of_range_userIds : 1000 ≤ 9999 ∧ 9999 + 1 - 1000 < 2 ^ 32 ∧
    Fair 32 (number? 32 1000 9999) (Finset.Icc 1000 9999) ∧
    ((Finset.range (2 ^ 32)).filter fun v => number? 32 1000 9999 v = some 4711).card = 2 ^ 18 := by
  have hle : 1000 ≤ 9999 := by decide
  have hwidth : 9999 + 1 - 1000 < 2 ^ 32 := by decide
  obtain ⟨hfair, -⟩ := fair_of_range hle hwidth
  refine ⟨hle, hwidth, hfair, ?_⟩
  have hzeros : leadingZeros 32 9000 = 18 := by decide
  rw [hfair.shares.count 4711 (Finset.mem_Icc.mpr (by decide)), Nat.card_Icc]
  exact congrArg (2 ^ ·) hzeros

end Uniform
end LoadMonitor
