import LoadMonitor.Proofs.Url.Stored

/-!
# Names of ideographs

A name of at most a thousand ideographs can be the host of an address, and it is stored in its
encoded form. That form is up to three times as long, since far gaps take three digits each. So it
can be longer than an encoded label that is read may be.
-/

namespace LoadMonitor.Url

open Unicode

/-! ## The length of encoded labels -/

namespace Punycode

/-- A wide gap takes three digits, whatever the thresholds are. -/
theorem length_numeral (bias : Nat) {gap : Nat} (h : 936 ≤ gap) :
    3 ≤ (numeral bias 36 gap).length := by
  have hlow := threshold_le 36 bias
  have hhigh := threshold_le 72 bias
  have hquotient : threshold 72 bias ≤ (gap - threshold 36 bias) / (36 - threshold 36 bias) := by
    rw [Nat.le_div_iff_mul_le (by omega)]
    calc threshold 72 bias * (36 - threshold 36 bias)
        ≤ 26 * (36 - threshold 36 bias) := Nat.mul_le_mul_right _ hhigh
      _ ≤ gap - threshold 36 bias := by omega
  rw [numeral, if_neg (by omega), numeral, if_neg (Nat.not_lt.mpr hquotient)]
  exact Nat.succ_le_succ (Nat.succ_le_succ (List.length_pos_iff.mpr (numeral_ne_nil _ _ _)))

theorem passes_grow (basics n : Nat) (input : List Char) (p : Progress) :
    p.out.length ≤ (input.foldl (pass basics n) p).out.length ∧
      p.done ≤ (input.foldl (pass basics n) p).done := by
  induction input generalizing p with
  | nil => exact ⟨Nat.le_refl _, Nat.le_refl _⟩
  | cons c rest ih =>
      have hpass : p.out.length ≤ (pass basics n p c).out.length ∧
          p.done ≤ (pass basics n p c).done := by
        rw [pass]
        split
        · exact ⟨Nat.le_refl _, Nat.le_refl _⟩
        · split
          · simp
          · exact ⟨Nat.le_refl _, Nat.le_refl _⟩
      exact ⟨Nat.le_trans hpass.1 (ih _).1, Nat.le_trans hpass.2 (ih _).2⟩

/-- A code point that occurs is inserted, with three digits if it is far. -/
theorem passes_insert (basics : Nat) {n : Nat} {input : List Char} (p : Progress)
    (h : ∃ c ∈ input, c.toNat = n) :
    p.done + 1 ≤ (input.foldl (pass basics n) p).done ∧
      (936 ≤ p.delta → p.out.length + 3 ≤ (input.foldl (pass basics n) p).out.length) := by
  induction input generalizing p with
  | nil => exact absurd h (by simp)
  | cons c rest ih =>
      have hlater : c.toNat ≠ n → ∃ d ∈ rest, d.toNat = n := by
        intro hne
        obtain ⟨d, hd, hn⟩ := h
        exact ⟨d, (List.mem_cons.mp hd).resolve_left fun heq => hne (heq ▸ hn), hn⟩
      rw [List.foldl_cons, pass]
      split
      · next hlt =>
        obtain ⟨hdone, hout⟩ := ih { p with delta := p.delta + 1 } (hlater (Nat.ne_of_lt hlt))
        exact ⟨hdone, fun hfar => hout (Nat.le_succ_of_le hfar)⟩
      · split
        · -- The numeral is written here, and nothing is taken back behind it.
          obtain ⟨hout, hdone⟩ := passes_grow basics n rest
            ⟨p.out ++ numeral p.bias 36 p.delta, 0, adapt p.delta (p.done + 1) (p.done == basics),
              p.done + 1⟩
          refine ⟨hdone, fun hfar => Nat.le_trans ?_ hout⟩
          rw [List.length_append]
          exact Nat.add_le_add_left (length_numeral p.bias hfar) _
        · next hne => exact ih p (hlater hne)

/-- Code points that are far apart take three digits each, save the first ones. -/
theorem length_insertAll (basics : Nat) {input : List Char} {others : List Nat} {last : Nat}
    (p : Progress) (hmem : ∀ n ∈ others, ∃ c ∈ input, c.toNat = n)
    (hfar : List.IsChain (fun m n => m + 20 ≤ n) (last :: others)) :
    p.out.length + 3 * others.length ≤
      (insertAll input basics others (last + 1) p).out.length + 3 * (49 - p.done) := by
  induction others generalizing last p with
  | nil => simp [insertAll]
  | cons n rest ih =>
      obtain ⟨hn, hrest⟩ := List.isChain_cons_cons.mp hfar
      obtain ⟨hnmem, hrestmem⟩ := List.forall_mem_cons.mp hmem
      rw [insertAll]
      generalize hq : ({ p with delta := p.delta + (n - (last + 1)) * (p.done + 1) } : Progress) = q
      have hdelta : 49 ≤ p.done → 936 ≤ q.delta := by
        intro hdone
        have hgap : 19 * (p.done + 1) ≤ (n - (last + 1)) * (p.done + 1) :=
          Nat.mul_le_mul_right _ (by omega)
        rw [← hq]
        dsimp only
        omega
      have hqout : q.out = p.out := by rw [← hq]
      have hqdone : q.done = p.done := by rw [← hq]
      obtain ⟨hdone, hout⟩ := passes_insert basics q hnmem
      have hgrow := (passes_grow basics n input q).1
      have hlater := ih
        { input.foldl (pass basics n) q with delta := (input.foldl (pass basics n) q).delta + 1 }
        hrestmem hrest
      dsimp only at hlater ⊢
      rw [hqout] at hout hgrow
      rw [hqdone] at hdone
      rw [List.length_cons]
      -- The first 49 may take less than three digits, for which the bound allows.
      by_cases hfirst : 49 ≤ p.done
      · have := hout (hdelta hfirst)
        omega
      · omega

/-- A label whose characters are far apart has an encoded form of about three times its length. -/
theorem length_encode {label : List Char}
    (hfar : List.IsChain (fun m n => m + 20 ≤ n) (127 :: codePoints (label.filter (128 ≤ ·.toNat)))) :
    3 * (codePoints (label.filter (128 ≤ ·.toNat))).length ≤ (encode label).length + 147 := by
  have hmem : ∀ n ∈ codePoints (label.filter (128 ≤ ·.toNat)), ∃ c ∈ label, c.toNat = n := by
    intro n hn
    obtain ⟨c, hc, hcn⟩ := mem_codePoints.mp hn
    exact ⟨c, List.mem_of_mem_filter hc, hcn⟩
  have hgrow := length_insertAll (label.filter (·.toNat < 128)).length
    ⟨[], 0, 72, (label.filter (·.toNat < 128)).length⟩ hmem hfar
  rw [List.length_nil, Nat.zero_add] at hgrow
  rw [encode, List.length_append]
  change _ ≤ _ + (insertAll label _ (codePoints (label.filter (128 ≤ ·.toNat))) (127 + 1) _).out.length
    + 147
  omega

end Punycode

/-! ## Names of ideographs -/

/-- Whether a character is a unified ideograph of the first plane. -/
def isIdeograph (c : Char) : Bool := ideographSet.testBit c.toNat

theorem isIdeograph_range {c : Char} (h : isIdeograph c = true) :
    0x4e00 ≤ c.toNat ∧ c.toNat ≤ 0x9fff :=
  testBit_ideographSet.mp h

theorem ne_of_isIdeograph {c d : Char} (h : isIdeograph c = true) (hd : d.toNat < 128) : c ≠ d := by
  rintro rfl
  have := (isIdeograph_range h).1
  omega

theorem not_contains_of_isIdeograph {c : Char} (h : isIdeograph c = true) {cs : List Char}
    (hcs : ∀ d ∈ cs, d.toNat < 128) : cs.contains c = false := by
  rw [← Bool.not_eq_true, List.contains_iff_mem]
  exact fun hmem => ne_of_isIdeograph h (hcs c hmem) rfl

theorem isHostChar_of_isIdeograph {c : Char} (h : isIdeograph c = true) : isHostChar c = true := by
  have hlow := (isIdeograph_range h).1
  rw [isHostChar, not_contains_of_isIdeograph h (forall_mem_of_all (by decide)),
    decide_eq_true (by omega)]
  rfl

theorem isForbidden_of_isIdeograph {c : Char} (h : isIdeograph c = true) :
    Domain.isForbidden c = false := by
  have hlow := (isIdeograph_range h).1
  rw [Domain.isForbidden, not_contains_of_isIdeograph h (forall_mem_of_all (by decide)),
    decide_eq_false (by omega),
    beq_false_of_ne (by omega)]
  rfl

theorem isPlain_of_isIdeograph {c : Char} (h : isIdeograph c = true) : Domain.isPlain c = true := by
  rw [Domain.isPlain, Domain.plainSet, Nat.testBit_or, ← isIdeograph, h, Bool.or_true]

variable {name : List Char}

/-- A name of ideographs is stored in its encoded form. -/
theorem ofChars?_of_isIdeograph (h : ∀ c ∈ name, isIdeograph c = true) (hne : name ≠ [])
    (hlength : name.length ≤ 1000) :
    Domain.ofChars? name = some ('x' :: 'n' :: '-' :: '-' :: Punycode.encode name) := by
  obtain ⟨c, rest, hname⟩ := List.exists_cons_of_ne_nil hne
  have hc : isIdeograph c = true := h c (hname ▸ List.mem_cons_self)
  have hsplit : splitAtChars (· == '.') name = [name] :=
    splitAtChars_of_forall fun d hd => beq_false_of_ne (ne_of_isIdeograph (h d hd) (by decide))
  have hascii : Domain.isAscii name = false := by
    rw [← Bool.not_eq_true, Domain.isAscii_iff]
    intro hall
    have hlow := (isIdeograph_range hc).1
    have hlt := hall c (hname ▸ List.mem_cons_self)
    omega
  have hencoded : Domain.looksEncoded name = false := by
    rw [← Bool.not_eq_true, Domain.looksEncoded_iff]
    rintro ⟨body, hbody⟩
    exact ne_of_isIdeograph (h 'x' (hbody ▸ List.mem_cons_self)) (by decide) rfl
  have hnormal : Unicode.normal name = name :=
    normal_eq (recomposed_of_inert fun d hd => inert_ideograph (h d hd))
  rw [Domain.ofChars?_of_isPlain (fun d hd => ⟨isPlain_of_isIdeograph (h d hd),
    (ideograph_facts (h d hd)).1, isForbidden_of_isIdeograph (h d hd)⟩) hnormal, hsplit]
  · rw [List.map_singleton, List.intercalate_singleton, Domain.storedForm, hascii]
    rfl
  · rw [hsplit]
    exact List.forall_mem_singleton.mpr ⟨hencoded, hlength⟩

theorem numeralValue_eq_none {base : Nat} {c : Char} (hc : hexValue? c = none) (cs : List Char) :
    numeralValue base (c :: cs) = none := by
  rw [numeralValue, List.foldl_cons, hc]
  induction cs with
  | nil => rfl
  | cons d rest ih => exact ih

theorem splitAtChars_encoded {body : List Char} (h : '.' ∉ body) :
    splitAtChars (· == '.') ('x' :: 'n' :: '-' :: '-' :: body) =
      ['x' :: 'n' :: '-' :: '-' :: body] := by
  refine splitAtChars_of_forall fun c hc => beq_false_of_ne ?_
  rintro rfl
  simp [h] at hc

/-- An encoded label does not look like a number. -/
theorem looksNumeric_encoded {body : List Char} (h : '.' ∉ body) :
    Ipv4.looksNumeric ('x' :: 'n' :: '-' :: '-' :: body) = false := by
  have hpart : Ipv4.readPart ('x' :: 'n' :: '-' :: '-' :: body) = none :=
    numeralValue_eq_none (by decide) _
  rw [Ipv4.looksNumeric, Ipv4.splitParts, splitAtChars_encoded h]
  simp only [List.length_singleton, Nat.lt_irrefl, decide_false, Bool.false_and, Bool.false_eq_true,
    if_false, List.getLast?_singleton, hpart]
  rfl

theorem hasLongLabel_encoded {body : List Char} (h : '.' ∉ body) (hlength : 2000 < body.length) :
    Domain.hasLongLabel ('x' :: 'n' :: '-' :: '-' :: body) = true := by
  have hlong : decide (2004 < ('x' :: 'n' :: '-' :: '-' :: body).length) = true :=
    decide_eq_true (by simp only [List.length_cons]; omega)
  rw [Domain.hasLongLabel, splitAtChars_encoded h, List.any_cons, hlong]
  rfl

theorem dot_not_mem_encode (h : ∀ c ∈ name, isIdeograph c = true) : '.' ∉ Punycode.encode name := by
  intro hmem
  rcases Punycode.mem_encode hmem with hname | hdash | ⟨d, hd, hdigit⟩
  · exact ne_of_isIdeograph (h '.' hname) (by decide) rfl
  · cases hdash
  · have hall : ∀ d ∈ List.range 36, '.' ≠ Punycode.digit d := by decide
    exact hall d (List.mem_range.mpr hd) hdigit

theorem readDomain_of_isIdeograph (h : ∀ c ∈ name, isIdeograph c = true) (hne : name ≠ [])
    (hlength : name.length ≤ 1000) :
    readDomain name = .ok (.name ('x' :: 'n' :: '-' :: '-' :: Punycode.encode name)) := by
  have hpercent : '%' ∉ name := fun hmem => ne_of_isIdeograph (h '%' hmem) (by decide) rfl
  rw [readDomain, textOfBytes?_decode hpercent, Option.bind_some,
    ofChars?_of_isIdeograph h hne hlength]
  simp only [List.isEmpty_cons, looksNumeric_encoded (dot_not_mem_encode h), Bool.false_eq_true,
    if_false]

/-- A name of ideographs is the host of an address. -/
theorem parse_of_isIdeograph (h : ∀ c ∈ name, isIdeograph c = true) (hne : name ≠ [])
    (hlength : name.length ≤ 1000) :
    parse (String.ofList ("http://".toList ++ name)) =
      .ok ⟨"http".toList, some ⟨[], none, .name ('x' :: 'n' :: '-' :: '-' :: Punycode.encode name), none⟩,
        .segments [[]], none, none⟩ :=
  parse_host hne (fun c hc => isHostChar_of_isIdeograph (h c hc))
    (readDomain_of_isIdeograph h hne hlength)

/-! ## A name that is too long to be read again -/

/-- Eight hundred ideographs, each twenty after the one before it. -/
def longName : List Char := (List.range 800).map fun i => Char.ofNat (0x4e00 + 20 * i)

theorem isIdeograph_longName : ∀ c ∈ longName, isIdeograph c = true := by
  intro c hc
  obtain ⟨i, hi, rfl⟩ := List.mem_map.mp hc
  have hlt := List.mem_range.mp hi
  have hvalid : (0x4e00 + 20 * i).isValidChar := .inl (by omega)
  rw [isIdeograph, testBit_ideographSet, toNat_ofNat hvalid]
  omega

/-- The code points of the name, which are far apart. -/
theorem codePoints_longName :
    (Punycode.codePoints (longName.filter (128 ≤ ·.toNat))).length = 800 ∧
      List.IsChain (fun m n => m + 20 ≤ n)
        (127 :: Punycode.codePoints (longName.filter (128 ≤ ·.toNat))) := by
  decide +kernel

/-- The encoded form of the name is longer than one that is read. -/
theorem length_encode_longName : 2000 < (Punycode.encode longName).length := by
  obtain ⟨hlength, hfar⟩ := codePoints_longName
  have hthree := Punycode.length_encode hfar
  rw [hlength] at hthree
  omega

end LoadMonitor.Url
