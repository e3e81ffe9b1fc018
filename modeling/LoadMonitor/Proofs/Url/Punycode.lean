import LoadMonitor.Proofs.Text.Split
import LoadMonitor.Url.Punycode

/-!
# Encoded labels are read back

Encoding a label and decoding the result gives the label again, whatever characters it holds.

Both sides walk through the same states, ordered first by code point and then by the place at
which a character would be inserted. The encoder counts the steps from one insertion to the next
and writes the count as a numeral; the decoder reads it and goes as many steps at once. What the
decoder has put together when the encoder stands at a code point `n` with the input
`before ++ after` is `before` without the characters beyond `n`, and `after` without those from
`n` on.
-/

namespace LoadMonitor.Url.Punycode

/-! ## Digits and numerals -/

theorem digitValue?_digit {d : Nat} (h : d < 36) : digitValue? (digit d) = some d := by
  have hall : ∀ e ∈ List.range 36, digitValue? (digit e) = some e := by decide
  exact hall d (List.mem_range.mpr h)

theorem threshold_le (k bias : Nat) : threshold k bias ≤ 26 := Nat.min_le_left _ _

/-- A numeral is read back, with any rest behind it. -/
theorem readNumeral_numeral (bias k q weight sum : Nat) (rest : List Char) :
    readNumeral bias k weight sum (numeral bias k q ++ rest) = some (sum + q * weight, rest) := by
  induction q using Nat.strongRecOn generalizing k weight sum with
  | _ q ih =>
      have hpos := threshold_pos k bias
      have hle := threshold_le k bias
      rw [numeral]
      by_cases hlast : q < threshold k bias
      · simp [hlast, readNumeral, digitValue?_digit (show q < 36 by omega)]
      · have hmod : (q - threshold k bias) % (36 - threshold k bias) < 36 - threshold k bias :=
          Nat.mod_lt _ (by omega)
        have hdigit := digitValue?_digit (show threshold k bias +
          (q - threshold k bias) % (36 - threshold k bias) < 36 by omega)
        have hsmaller : (q - threshold k bias) / (36 - threshold k bias) < q :=
          Nat.lt_of_le_of_lt (Nat.div_le_self _ _) (by omega)
        simp only [hlast, if_false, List.cons_append, readNumeral, hdigit, Option.bind_eq_bind,
          Option.bind_some, Nat.not_lt_of_le (Nat.le_add_right _ _)]
        rw [ih _ hsmaller]
        have hparts := Nat.div_add_mod (q - threshold k bias) (36 - threshold k bias)
        have hq : q = threshold k bias + (q - threshold k bias) % (36 - threshold k bias) +
            (q - threshold k bias) / (36 - threshold k bias) * (36 - threshold k bias) := by
          rw [Nat.mul_comm] at hparts
          omega
        -- The first digit and the rest of the numeral, each with its weight.
        have hvalue : q * weight = (threshold k bias +
            (q - threshold k bias) % (36 - threshold k bias)) * weight +
            (q - threshold k bias) / (36 - threshold k bias) *
              (weight * (36 - threshold k bias)) := by
          rw [Nat.mul_comm weight, ← Nat.mul_assoc, ← Nat.add_mul, ← hq]
        rw [hvalue, Nat.add_assoc]

/-- The digits of a numeral. -/
def IsDigit (c : Char) : Prop := ∃ d < 36, c = digit d

theorem mem_numeral {bias k q : Nat} {c : Char} (h : c ∈ numeral bias k q) : IsDigit c := by
  induction q using Nat.strongRecOn generalizing k with
  | _ q ih =>
      have hpos := threshold_pos k bias
      have hle := threshold_le k bias
      rw [numeral] at h
      by_cases hlast : q < threshold k bias
      · simp only [hlast, if_true, List.mem_singleton] at h
        exact ⟨q, by omega, h⟩
      · simp only [hlast, if_false, List.mem_cons] at h
        rcases h with rfl | h
        · have hmod : (q - threshold k bias) % (36 - threshold k bias) < 36 - threshold k bias :=
            Nat.mod_lt _ (by omega)
          exact ⟨_, by omega, rfl⟩
        · exact ih _ (Nat.lt_of_le_of_lt (Nat.div_le_self _ _) (by omega)) h

theorem numeral_ne_nil (bias k q : Nat) : numeral bias k q ≠ [] := by
  rw [numeral]
  split <;> nofun

/-! ## Decoding gap by gap -/

/-- What decoding carries from one gap to the next. -/
structure Decoding where
  codePoint : Nat
  place : Nat
  bias : Nat
  out : List Char

namespace Decoding

/-- Decode what is left. -/
def finish (s : Decoding) (gaps : Nat) (digits : List Char) : Option (List Char) :=
  decodeGaps gaps digits s.codePoint s.place s.bias s.out

/-- The digits lead from one state to another, whatever follows them. -/
def Leads (digits : List Char) (s t : Decoding) : Prop :=
  ∀ gaps rest, digits.length + rest.length ≤ gaps →
    ∃ gaps', rest.length ≤ gaps' ∧ s.finish gaps (digits ++ rest) = t.finish gaps' rest

theorem Leads.nil (s : Decoding) : Leads [] s s :=
  fun gaps rest hgaps => ⟨gaps, by simpa using hgaps, rfl⟩

theorem Leads.append {ds es : List Char} {s t u : Decoding} (hst : Leads ds s t)
    (htu : Leads es t u) : Leads (ds ++ es) s u := by
  intro gaps rest hgaps
  rw [List.length_append, Nat.add_assoc, ← List.length_append] at hgaps
  obtain ⟨gaps', hgaps', heq⟩ := hst gaps (es ++ rest) hgaps
  rw [List.length_append] at hgaps'
  obtain ⟨gaps'', hgaps'', heq'⟩ := htu gaps' rest hgaps'
  exact ⟨gaps'', hgaps'', by rw [List.append_assoc, heq, heq']⟩

/-- The state after a character was inserted. -/
def insert (s : Decoding) (gap : Nat) (c : Char) (place : Nat) : Decoding where
  codePoint := c.toNat
  place := place + 1
  bias := adapt gap (s.out.length + 1) (s.place == 0)
  out := s.out.take place ++ c :: s.out.drop place

/-- A numeral leads to the next insertion: so many steps ahead. -/
theorem Leads.gap {s : Decoding} {gap : Nat} {c : Char} {place : Nat}
    (hplace : place ≤ s.out.length)
    (hsteps : (c.toNat - s.codePoint) * (s.out.length + 1) + place = s.place + gap)
    (hcodePoint : s.codePoint ≤ c.toNat) :
    Leads (numeral s.bias 36 gap) s (s.insert gap c place) := by
  intro gaps rest hgaps
  have hquotient : s.codePoint + (s.place + gap) / (s.out.length + 1) = c.toNat := by
    rw [← hsteps, Nat.mul_comm, Nat.mul_add_div (Nat.succ_pos _),
      Nat.div_eq_of_lt (Nat.lt_succ_of_le hplace)]
    omega
  have hremainder : (s.place + gap) % (s.out.length + 1) = place := by
    rw [← hsteps, Nat.mul_comm, Nat.mul_add_mod, Nat.mod_eq_of_lt (Nat.lt_succ_of_le hplace)]
  obtain ⟨d, ds, hnumeral⟩ := List.exists_cons_of_ne_nil (numeral_ne_nil s.bias 36 gap)
  obtain ⟨gaps, rfl⟩ : ∃ g, gaps = g + 1 := by
    rw [hnumeral, List.length_cons] at hgaps
    exact ⟨gaps - 1, by omega⟩
  refine ⟨gaps, ?_, ?_⟩
  · rw [hnumeral, List.length_cons] at hgaps
    omega
  · have hread := readNumeral_numeral s.bias 36 gap 1 0 rest
    have hvalid : c.toNat.isValidChar := c.valid
    rw [finish, finish, insert]
    rw [hnumeral, List.cons_append] at hread ⊢
    rw [decodeGaps, hread]
    simp only [Option.bind_eq_bind, Option.bind_some, Nat.zero_add, Nat.mul_one, hquotient,
      hremainder, if_pos hvalid, Char.ofNat_toNat]
    nofun

end Decoding

/-! ## Encoding step by step -/

/-- What the decoder has put together when the encoder stands at a code point, with part of the
input before it and the rest after it. -/
def inserted (n : Nat) (before after : List Char) : List Char :=
  before.filter (·.toNat ≤ n) ++ after.filter (·.toNat < n)

/-- The place in it at which the encoder stands. -/
def placeIn (n : Nat) (before : List Char) : Nat := (before.filter (·.toNat ≤ n)).length

/-- The encoder stands at a code point with part of the input before it, and the decoder is in the
state it has after what was written so far, as many steps behind as the encoder has counted. -/
structure Follows (basics n : Nat) (before after : List Char) (s : Decoding) (p : Progress) :
    Prop where
  out : s.out = inserted n before after
  done : p.done = s.out.length
  bias : s.bias = p.bias
  codePoint : s.codePoint ≤ n
  steps : (n - s.codePoint) * (p.done + 1) + placeIn n before = s.place + p.delta
  first : s.place = 0 ↔ p.done = basics
  basics_le : basics ≤ p.done

namespace Follows

variable {basics n : Nat} {before after : List Char} {s : Decoding} {p : Progress} {c : Char}

/-- A character that was inserted at an earlier code point: its place is passed. -/
theorem pass_earlier (h : Follows basics n before (c :: after) s p) (hlt : c.toNat < n) :
    Follows basics n (before ++ [c]) after s { p with delta := p.delta + 1 } := by
  obtain ⟨hout, hdone, hbias, hcodePoint, hsteps, hfirst, hbasics⟩ := h
  have hle : c.toNat ≤ n := Nat.le_of_lt hlt
  constructor
  case out => simp [hout, inserted, hlt, hle]
  case steps =>
    simp only [placeIn, List.filter_append, List.filter_cons, hle, decide_true, if_true,
      List.filter_nil, List.length_append, List.length_singleton] at hsteps ⊢
    omega
  all_goals assumption

/-- A character that will be inserted at a later code point: nothing changes. -/
theorem pass_later (h : Follows basics n before (c :: after) s p) (hgt : n < c.toNat) :
    Follows basics n (before ++ [c]) after s p := by
  obtain ⟨hout, hdone, hbias, hcodePoint, hsteps, hfirst, hbasics⟩ := h
  have hnlt : ¬c.toNat < n := by omega
  have hnle : ¬c.toNat ≤ n := by omega
  constructor
  case out => simp [hout, inserted, hnlt, hnle]
  case steps => simpa [placeIn, hnle] using hsteps
  all_goals assumption

theorem placeIn_le (h : Follows basics n before after s p) : placeIn n before ≤ s.out.length := by
  simp [h.out, inserted, placeIn]

/-- A character that belongs here is inserted, with the numeral of the steps counted so far. -/
theorem pass_here (h : Follows basics c.toNat before (c :: after) s p) :
    Follows basics c.toNat (before ++ [c]) after (s.insert p.delta c (placeIn c.toNat before))
      { out := p.out ++ numeral p.bias 36 p.delta, delta := 0
        bias := adapt p.delta (p.done + 1) (p.done == basics), done := p.done + 1 } := by
  obtain ⟨hout, hdone, hbias, hcodePoint, hsteps, hfirst, hbasics⟩ := h
  have hout' : (s.insert p.delta c (placeIn c.toNat before)).out =
      inserted c.toNat (before ++ [c]) after := by
    simp [Decoding.insert, hout, inserted, placeIn]
  constructor
  case out => exact hout'
  case done =>
    rw [hout', hdone, hout]
    simp [inserted]
    omega
  case bias =>
    have hisFirst : (s.place == 0) = (p.done == basics) := by
      rw [Bool.eq_iff_iff]
      simpa using hfirst
    simp only [Decoding.insert, hisFirst, hdone]
  case codePoint => exact Nat.le_refl _
  case steps => simp [Decoding.insert, placeIn]
  case first =>
    simp only [Decoding.insert]
    omega
  case basics_le => exact Nat.le_succ_of_le hbasics

/-- One character of the input is passed. -/
theorem pass (h : Follows basics n before (c :: after) s p) :
    ∃ t digits, (Punycode.pass basics n p c).out = p.out ++ digits ∧
      (∀ d ∈ digits, IsDigit d) ∧ Decoding.Leads digits s t ∧
      Follows basics n (before ++ [c]) after t (Punycode.pass basics n p c) := by
  rcases Nat.lt_trichotomy c.toNat n with hlt | rfl | hgt
  · have hpass : Punycode.pass basics n p c = { p with delta := p.delta + 1 } := if_pos hlt
    rw [hpass]
    exact ⟨s, [], by simp, nofun, .nil s, h.pass_earlier hlt⟩
  · have hpass : Punycode.pass basics c.toNat p c =
        { out := p.out ++ numeral p.bias 36 p.delta, delta := 0
          bias := adapt p.delta (p.done + 1) (p.done == basics), done := p.done + 1 } := by
      rw [Punycode.pass, if_neg (Nat.lt_irrefl _), if_pos rfl]
    have hleads := Decoding.Leads.gap h.placeIn_le (by rw [← h.done]; exact h.steps) h.codePoint
    rw [h.bias] at hleads
    rw [hpass]
    exact ⟨_, numeral p.bias 36 p.delta, rfl, fun d hd => mem_numeral hd, hleads, h.pass_here⟩
  · have hpass : Punycode.pass basics n p c = p := by
      rw [Punycode.pass, if_neg (by omega), if_neg (by omega)]
    rw [hpass]
    exact ⟨s, [], by simp, nofun, .nil s, h.pass_later hgt⟩

/-- The rest of the input is passed. -/
theorem passes (h : Follows basics n before after s p) :
    ∃ t digits, (after.foldl (Punycode.pass basics n) p).out = p.out ++ digits ∧
      (∀ d ∈ digits, IsDigit d) ∧ Decoding.Leads digits s t ∧
      Follows basics n (before ++ after) [] t (after.foldl (Punycode.pass basics n) p) := by
  induction after generalizing before s p with
  | nil => exact ⟨s, [], by simp, nofun, .nil s, by simpa using h⟩
  | cons c after ih =>
      obtain ⟨t, digits, hout, hdigits, hleads, hpassed⟩ := h.pass
      obtain ⟨u, digits', hout', hdigits', hleads', hrest⟩ := ih hpassed
      refine ⟨u, digits ++ digits', ?_, ?_, hleads.append hleads', ?_⟩
      · rw [List.foldl_cons, hout', hout, List.append_assoc]
      · intro d hd
        rcases List.mem_append.mp hd with hd | hd
        · exact hdigits d hd
        · exact hdigits' d hd
      · rw [List.foldl_cons]
        simpa using hrest

/-- Code points that do not occur are skipped. -/
theorem ahead {m : Nat} (h : Follows basics n [] after s p) (hm : n ≤ m)
    (hnone : ∀ c ∈ after, n ≤ c.toNat → m ≤ c.toNat) :
    Follows basics m [] after s { p with delta := p.delta + (m - n) * (p.done + 1) } := by
  obtain ⟨hout, hdone, hbias, hcodePoint, hsteps, hfirst, hbasics⟩ := h
  have hfilter : after.filter (fun c => decide (c.toNat < m)) =
      after.filter fun c => decide (c.toNat < n) := by
    refine List.filter_congr fun c hc => ?_
    have := hnone c hc
    rw [decide_eq_decide]
    omega
  have hrange : m - s.codePoint = (n - s.codePoint) + (m - n) := by omega
  constructor
  case out => simpa [inserted, hfilter] using hout
  case codePoint => omega
  case steps =>
    simp only [placeIn, List.filter_nil, List.length_nil, hrange, Nat.add_mul] at hsteps ⊢
    omega
  all_goals assumption

/-- At the end of the input the next code point is due. -/
theorem around (h : Follows basics n before [] s p) :
    Follows basics (n + 1) [] before s { p with delta := p.delta + 1 } := by
  obtain ⟨hout, hdone, hbias, hcodePoint, hsteps, hfirst, hbasics⟩ := h
  have hplace : placeIn n before = p.done := by simp [hdone, hout, placeIn, inserted]
  have hrange : n + 1 - s.codePoint = (n - s.codePoint) + 1 := by omega
  constructor
  case out => simpa [inserted, Nat.lt_succ_iff] using hout
  case codePoint => omega
  case steps =>
    rw [hplace] at hsteps
    simp only [placeIn, List.filter_nil, List.length_nil, hrange, Nat.add_mul, Nat.one_mul]
    omega
  all_goals assumption

/-- All code points are inserted, `start` being the least that was not considered. -/
theorem insertAll {others : List Nat} {start : Nat} (h : Follows basics start [] after s p)
    (hsorted : others.Pairwise (· < ·)) (hstart : ∀ m ∈ others, start ≤ m)
    (hall : ∀ c ∈ after, start ≤ c.toNat → c.toNat ∈ others) :
    ∃ t digits, (Punycode.insertAll after basics others start p).out = p.out ++ digits ∧
      (∀ d ∈ digits, IsDigit d) ∧ Decoding.Leads digits s t ∧ t.out = after := by
  induction others generalizing start s p with
  | nil =>
      refine ⟨s, [], by simp [Punycode.insertAll], nofun, .nil s, ?_⟩
      rw [h.out, inserted, List.filter_nil, List.nil_append, List.filter_eq_self]
      intro c hc
      have hnot : ¬start ≤ c.toNat := fun hle => List.not_mem_nil (hall c hc hle)
      simpa using hnot
  | cons m rest ih =>
      obtain ⟨hfirst, hrest⟩ := List.pairwise_cons.mp hsorted
      have hahead := h.ahead (hstart m List.mem_cons_self) fun c hc hle => by
        rcases List.mem_cons.mp (hall c hc hle) with heq | hmem
        · omega
        · exact Nat.le_of_lt (hfirst _ hmem)
      obtain ⟨t, digits, hout, hdigits, hleads, hpassed⟩ := hahead.passes
      -- What is left to be inserted is above `m`.
      have hlater : ∀ c ∈ after, m + 1 ≤ c.toNat → c.toNat ∈ rest := by
        intro c hc hle
        have hmem := hall c hc (Nat.le_trans (hstart m List.mem_cons_self) (by omega))
        rcases List.mem_cons.mp hmem with heq | hmem
        · omega
        · exact hmem
      obtain ⟨u, digits', hout', hdigits', hleads', hend⟩ :=
        ih hpassed.around hrest (fun k hk => hfirst k hk) hlater
      refine ⟨u, digits ++ digits', ?_, ?_, hleads.append hleads', hend⟩
      · rw [Punycode.insertAll, hout', hout, List.append_assoc]
      · intro d hd
        rcases List.mem_append.mp hd with hd | hd
        · exact hdigits d hd
        · exact hdigits' d hd

end Follows

/-! ## Code points in ascending order -/

theorem mem_insertNumber {n m : Nat} {ns : List Nat} : m ∈ insertNumber n ns ↔ m = n ∨ m ∈ ns := by
  induction ns with
  | nil => simp [insertNumber]
  | cons k rest ih =>
      rw [insertNumber]
      split
      · next heq => simp [heq]
      · split
        · simp
        · rw [List.mem_cons, ih, List.mem_cons, or_left_comm]

theorem insertNumber_pairwise {n : Nat} {ns : List Nat} (h : ns.Pairwise (· < ·)) :
    (insertNumber n ns).Pairwise (· < ·) := by
  induction ns with
  | nil => simp [insertNumber]
  | cons k rest ih =>
      obtain ⟨hfirst, hrest⟩ := List.pairwise_cons.mp h
      rw [insertNumber]
      split
      · exact h
      · next hne =>
          split
          · next hlt =>
              refine List.pairwise_cons.mpr ⟨fun m hm => ?_, h⟩
              rcases List.mem_cons.mp hm with rfl | hm
              · exact hlt
              · exact Nat.lt_trans hlt (hfirst m hm)
          · next hnlt =>
              refine List.pairwise_cons.mpr ⟨fun m hm => ?_, ih hrest⟩
              rcases mem_insertNumber.mp hm with rfl | hm
              · omega
              · exact hfirst m hm

/-- The code points of characters, each once. -/
def codePoints (cs : List Char) : List Nat := cs.foldr (fun c ns => insertNumber c.toNat ns) []

theorem mem_codePoints {cs : List Char} {n : Nat} :
    n ∈ codePoints cs ↔ ∃ c ∈ cs, c.toNat = n := by
  induction cs with
  | nil => simp [codePoints]
  | cons c rest ih =>
      rw [codePoints, List.foldr_cons, ← codePoints, mem_insertNumber, ih]
      simp [eq_comm]

theorem codePoints_pairwise (cs : List Char) : (codePoints cs).Pairwise (· < ·) := by
  induction cs with
  | nil => exact .nil
  | cons c rest ih => exact insertNumber_pairwise ih

/-! ## Labels -/

theorem IsDigit.ne_dash {c : Char} (h : IsDigit c) : c ≠ '-' := by
  obtain ⟨d, hd, rfl⟩ := h
  have hall : ∀ e ∈ List.range 36, digit e ≠ '-' := by decide
  exact hall d (List.mem_range.mpr hd)

/-- The encoded form of a label: its ASCII characters, if there are any a dash, and digits. -/
theorem encode_eq (label : List Char) : ∃ digits,
    encode label = (if (label.filter (·.toNat < 128)).isEmpty then []
      else label.filter (·.toNat < 128) ++ ['-']) ++ digits ∧
    (∀ d ∈ digits, IsDigit d) ∧
    ∀ gaps, digits.length ≤ gaps →
      decodeGaps gaps digits 128 0 72 (label.filter (·.toNat < 128)) = some label := by
  -- At the start the decoder has the ASCII characters, and the encoder stands before the rest.
  have hstart : Follows (label.filter (·.toNat < 128)).length 128 [] label
      ⟨128, 0, 72, label.filter (·.toNat < 128)⟩
      ⟨[], 0, 72, (label.filter (·.toNat < 128)).length⟩ := by
    constructor
    case out => simp [inserted]
    case steps => simp [placeIn]
    case first => simp
    all_goals simp
  obtain ⟨t, digits, hout, hdigits, hleads, hlabel⟩ :=
    hstart.insertAll (codePoints_pairwise (label.filter (128 ≤ ·.toNat)))
      (by
        intro m hm
        obtain ⟨c, hc, rfl⟩ := mem_codePoints.mp hm
        simpa using (List.mem_filter.mp hc).2)
      fun c hc hle => mem_codePoints.mpr ⟨c, List.mem_filter.mpr ⟨hc, by simpa using hle⟩, rfl⟩
  refine ⟨digits, ?_, hdigits, ?_⟩
  · rw [List.nil_append] at hout
    rw [encode, ← hout]
    rfl
  · intro gaps hgaps
    obtain ⟨gaps', -, heq⟩ := hleads gaps [] (by simpa using hgaps)
    rw [List.append_nil] at heq
    simpa [Decoding.finish, decodeGaps, hlabel] using heq

/-- What an encoded label holds. -/
theorem mem_encode {label : List Char} {c : Char} (h : c ∈ encode label) :
    c ∈ label ∨ c = '-' ∨ IsDigit c := by
  obtain ⟨digits, hencode, hdigits, -⟩ := encode_eq label
  rw [hencode, List.mem_append] at h
  rcases h with hlead | hdigit
  · split at hlead
    · cases hlead
    · rw [List.mem_append, List.mem_singleton] at hlead
      rcases hlead with hbasic | hdash
      · exact .inl (List.mem_filter.mp hbasic).1
      · exact .inr (.inl hdash)
  · exact .inr (.inr (hdigits c hdigit))

/-- Encoding is undone by decoding. -/
theorem decode_encode (label : List Char) : decode (encode label) = some label := by
  obtain ⟨digits, hencode, hdigits, hdecode⟩ := encode_eq label
  have hdash : '-' ∉ digits := fun hmem => (hdigits _ hmem).ne_dash rfl
  rw [hencode, decode]
  by_cases hbasic : (label.filter (·.toNat < 128)).isEmpty
  · rw [if_pos hbasic, List.nil_append, cutAtLastChar_of_not_mem hdash]
    rw [List.isEmpty_iff.mp hbasic] at hdecode
    exact hdecode _ (Nat.le_refl _)
  · rw [if_neg hbasic, List.append_assoc, List.singleton_append, cutAtLastChar_append _ hdash]
    exact hdecode _ (Nat.le_refl _)

end LoadMonitor.Url.Punycode
