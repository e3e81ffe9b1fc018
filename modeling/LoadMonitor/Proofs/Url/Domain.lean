import LoadMonitor.Proofs.Json.Integer
import LoadMonitor.Proofs.Unicode.Inert
import LoadMonitor.Proofs.Url.Punycode
import LoadMonitor.Url.Domain

/-!
# Stored names are read back

The stored form of a domain name is read as that same form, since all its labels are in the form in
which they are read. There is one exception: a label that is not encoded yet can be longer than an
encoded one may be, and then its stored form is refused.
-/

namespace LoadMonitor.Url.Domain

open Unicode

theorem toNat_toLower {c : Char} (h : c.toNat < 128) : c.toLower.toNat =
    if 0x41 ≤ c.toNat ∧ c.toNat ≤ 0x5a then c.toNat + 32 else c.toNat :=
  forall_ascii (p := fun c => c.toLower.toNat =
    if 0x41 ≤ c.toNat ∧ c.toNat ≤ 0x5a then c.toNat + 32 else c.toNat) (by decide) h

/-- A character that stands for itself. -/
theorem mapped?_of_isChanging {c : Char} (h : isChanging c = false) : mapped? c = some [c] := by
  rw [mapped?]
  split
  · next hascii =>
    have hlower : c.toLower = c := by
      rw [isChanging, ← Bool.not_eq_true, testBit_changing_ascii hascii] at h
      rw [← Char.toNat_inj, toNat_toLower hascii, if_neg h]
    rw [hlower]
  · rw [isChanging_eq, Bool.or_eq_false_iff, Bool.or_eq_false_iff] at h
    obtain ⟨⟨hignored, hdisallowed⟩, hmapped⟩ := h
    rw [CodeTable.contains_eq_false hignored, CodeTable.contains_eq_false hdisallowed,
      CodeTable.replacement?_eq_none hmapped]
    rfl

/-- What a character stands for stands for itself. -/
theorem isChanging_of_mem_mapped? {c d : Char} {front : List Char} (h : mapped? c = some front)
    (hd : d ∈ front) : isChanging d = false := by
  rw [mapped?] at h
  split at h
  · next hascii =>
    obtain rfl := Option.some.inj h
    obtain rfl := List.mem_singleton.mp hd
    -- Of the ASCII characters only the capital letters change.
    have hlower := toNat_toLower hascii
    rw [isChanging, ← Bool.not_eq_true, testBit_changing_ascii]
    · split at hlower <;> omega
    · split at hlower <;> omega
  · split at h
    · obtain rfl := Option.some.inj h
      cases hd
    · next hignored =>
      split at h
      · cases h
      · next hdisallowed =>
        obtain rfl := Option.some.inj h
        cases hreplacement : Unicode.mapped.replacement? c with
        | none =>
            rw [hreplacement, Option.elim_none, List.mem_singleton] at hd
            rw [hd]
            exact isChanging_eq_false (Bool.eq_false_iff.mpr hignored)
              (Bool.eq_false_iff.mpr hdisallowed) hreplacement
        | some points =>
            rw [hreplacement, Option.elim_some, List.mem_map] at hd
            obtain ⟨p, hp, rfl⟩ := hd
            exact isChanging_of_mem_replacement? hreplacement hp

theorem mappedAll?_of_isChanging {cs : List Char} (h : ∀ c ∈ cs, isChanging c = false) :
    mappedAll? cs = some cs := by
  induction cs with
  | nil => rfl
  | cons c rest ih =>
      obtain ⟨hc, hrest⟩ := List.forall_mem_cons.mp h
      rw [mappedAll?, mapped?_of_isChanging hc, ih hrest]
      rfl

theorem isChanging_of_mem_mappedAll? {cs name : List Char} (h : mappedAll? cs = some name) :
    ∀ c ∈ name, isChanging c = false := by
  induction cs generalizing name with
  | nil =>
      obtain rfl := Option.some.inj h
      nofun
  | cons c rest ih =>
      rw [mappedAll?] at h
      split at h
      · next front name' hfront hname =>
        obtain rfl := Option.some.inj h
        exact List.forall_mem_append.mpr ⟨fun d => isChanging_of_mem_mapped? hfront, ih hname⟩
      · cases h

/-! ## Labels -/

/-- Characters that a stored name can hold: ASCII without capitals and delimiters. -/
structure IsStored (c : Char) : Prop where
  ascii : c.toNat < 128
  notCapital : ¬(0x41 ≤ c.toNat ∧ c.toNat ≤ 0x5a)
  allowed : isForbidden c = false

instance (c : Char) : Decidable (IsStored c) :=
  decidable_of_iff (c.toNat < 128 ∧ ¬(0x41 ≤ c.toNat ∧ c.toNat ≤ 0x5a) ∧ isForbidden c = false)
    ⟨fun ⟨hascii, hcapital, hallowed⟩ => ⟨hascii, hcapital, hallowed⟩,
    fun ⟨hascii, hcapital, hallowed⟩ => ⟨hascii, hcapital, hallowed⟩⟩

theorem IsStored.isChanging {c : Char} (h : IsStored c) : isChanging c = false := by
  rw [Unicode.isChanging, ← Bool.not_eq_true, testBit_changing_ascii h.ascii]
  exact h.notCapital

theorem isStored_of_isChanging {c : Char} (hascii : c.toNat < 128) (h : Unicode.isChanging c = false)
    (hallowed : isForbidden c = false) : IsStored c := by
  refine ⟨hascii, ?_, hallowed⟩
  rwa [← testBit_changing_ascii hascii, Bool.not_eq_true]

theorem isStored_of_isDigit {c : Char} (h : Punycode.IsDigit c) : IsStored c := by
  obtain ⟨d, hd, rfl⟩ := h
  have hall : ∀ d ∈ List.range 36, IsStored (Punycode.digit d) := by decide
  exact hall d (List.mem_range.mpr hd)

/-- The encoded form of a label that holds nothing forbidden. -/
theorem isStored_of_mem_encode {label : List Char} (hunchanging : ∀ c ∈ label, isChanging c = false)
    (hallowed : ∀ c ∈ label, isForbidden c = false) :
    ∀ c ∈ Punycode.encode label, IsStored c := by
  obtain ⟨digits, hencode, hdigits, -⟩ := Punycode.encode_eq label
  have hbasic : ∀ c ∈ label.filter (·.toNat < 128), IsStored c := by
    intro c hc
    obtain ⟨hmem, hascii⟩ := List.mem_filter.mp hc
    exact isStored_of_isChanging (of_decide_eq_true hascii) (hunchanging c hmem) (hallowed c hmem)
  rw [hencode]
  refine List.forall_mem_append.mpr ⟨?_, fun c hc => isStored_of_isDigit (hdigits c hc)⟩
  split
  · nofun
  · exact List.forall_mem_append.mpr ⟨hbasic, forall_mem_of_all (by decide)⟩

/-- The beginning of an encoded label. -/
theorem looksEncoded_iff {label : List Char} :
    looksEncoded label = true ↔ ∃ body, label = 'x' :: 'n' :: '-' :: '-' :: body := by
  fun_cases looksEncoded label with
  | case1 body => simp
  | case2 =>
      rename_i hnot
      exact ⟨nofun, fun ⟨body, h⟩ => (hnot body h).elim⟩

theorem isAscii_iff {cs : List Char} : isAscii cs = true ↔ ∀ c ∈ cs, c.toNat < 128 := by
  simp [isAscii]

/-- A label with all its characters standing for themselves and in composed form. -/
structure Settled (label : List Char) : Prop where
  normal : Unicode.normal label = label
  unchanging : ∀ c ∈ label, isChanging c = false

/-- What an encoded label says. -/
theorem readEncoded?_eq_some {body label : List Char} : readEncoded? body = some label ↔
    body.length ≤ 2000 ∧ Punycode.encode label = body ∧ isAscii label = false ∧
      Unicode.normal label = label ∧ ∀ c ∈ label, mapped? c = some [c] := by
  rw [readEncoded?]
  constructor
  · intro h
    split at h
    · cases h
    · next hlength =>
      split at h
      · cases h
      · next decoded hdecoded =>
        split at h
        · next hchecked =>
          obtain rfl := Option.some.inj h
          simp only [Bool.and_eq_true, Bool.not_eq_true', beq_iff_eq, List.all_eq_true] at hchecked
          obtain ⟨⟨⟨hascii, hencode⟩, hnormal⟩, hmapped⟩ := hchecked
          exact ⟨Nat.le_of_not_lt hlength, hencode, hascii, hnormal, hmapped⟩
        · cases h
  · rintro ⟨hlength, rfl, hascii, hnormal, hmapped⟩
    rw [if_neg (Nat.not_lt_of_le hlength), Punycode.decode_encode]
    simp only [hascii, hnormal, beq_self_eq_true, Bool.not_false, Bool.and_true, Bool.true_and]
    rw [if_pos (List.all_eq_true.mpr fun c hc => beq_iff_eq.mpr (hmapped c hc))]

/-- How a label that is shown is stored. -/
def storedForm (shown : List Char) : List Char :=
  if isAscii shown then shown else 'x' :: 'n' :: '-' :: '-' :: Punycode.encode shown

/-- A label as it is read. -/
structure Label.Proper (l : Label) : Prop where
  stored : l.stored = storedForm l.shown
  settled : Settled l.shown
  shown : mayBeShown l.shown = true
  plain : looksEncoded l.shown = false
  dotless : '.' ∉ l.stored

theorem proper_of_readLabel? {label : List Char} {l : Label} (hlabel : Settled label)
    (hdot : '.' ∉ label) (h : readLabel? label = some l) : l.Proper := by
  rw [readLabel?] at h
  split at h
  · next hascii =>
    split at h
    · next hencoded =>
      -- It is shown as what it says, which must encode to the same label.
      obtain ⟨body, rfl⟩ := looksEncoded_iff.mp hencoded
      split at h
      · next shown hshown =>
        split at h
        · next hchecked =>
          obtain rfl := Option.some.inj h
          obtain ⟨-, hencode, hbeyond, hnormal, hmapped⟩ := readEncoded?_eq_some.mp hshown
          rw [Bool.and_eq_true, Bool.not_eq_true'] at hchecked
          refine ⟨?_, ⟨hnormal, fun c hc => ?_⟩, hchecked.1, hchecked.2, hdot⟩
          · rw [storedForm, if_neg (Bool.eq_false_iff.mp hbeyond), hencode]
            rfl
          · exact isChanging_of_mem_mapped? (hmapped c hc) (List.mem_singleton_self c)
        · cases h
      · cases h
    · next hplain =>
      split at h
      · next hshown =>
        obtain rfl := Option.some.inj h
        exact ⟨(if_pos hascii).symm, hlabel, hshown, Bool.eq_false_iff.mpr hplain, hdot⟩
      · cases h
  · next hbeyond =>
    split at h
    · next hchecked =>
      obtain rfl := Option.some.inj h
      simp only [Bool.and_eq_true, Bool.not_eq_true'] at hchecked
      refine ⟨(if_neg hbeyond).symm, hlabel, hchecked.1.1, hchecked.1.2, ?_⟩
      -- No digit of the encoding is a full stop.
      have hencode : '.' ∉ Punycode.encode label := fun hmem => by
        rcases Punycode.mem_encode hmem with hmem | hdash | ⟨d, hd, hdigit⟩
        · exact hdot hmem
        · cases hdash
        · have hall : ∀ d ∈ List.range 36, '.' ≠ Punycode.digit d := by decide
          exact hall d (List.mem_range.mpr hd) hdigit
      simpa using hencode
    · cases h

namespace Label.Proper

variable {l : Label}

theorem isStored (h : l.Proper) : ∀ c ∈ l.stored, IsStored c := by
  have hshown := h.shown
  rw [mayBeShown, Bool.and_eq_true, Bool.not_eq_true', List.any_eq_false] at hshown
  have hallowed : ∀ c ∈ l.shown, isForbidden c = false :=
    fun c hc => Bool.eq_false_iff.mpr (hshown.2 c hc)
  have hbegin : ∀ c ∈ ['x', 'n', '-', '-'], IsStored c := forall_mem_of_all (by decide)
  rw [h.stored, storedForm]
  split
  · next hascii =>
    rw [isAscii_iff] at hascii
    exact fun c hc => isStored_of_isChanging (hascii c hc) (h.settled.unchanging c hc)
      (hallowed c hc)
  · exact List.forall_mem_append.mpr
      ⟨hbegin, isStored_of_mem_encode h.settled.unchanging hallowed⟩

/-- A label is read again as it is stored, if it is not too long for that. -/
theorem readLabel? (h : l.Proper) (hlength : looksEncoded l.stored = true → l.stored.length ≤ 2004) :
    Domain.readLabel? l.stored = some l := by
  have hascii : isAscii l.stored = true := isAscii_iff.mpr fun c hc => (h.isStored c hc).ascii
  have hform : l = ⟨storedForm l.shown, l.shown⟩ := by rw [← h.stored]
  rw [Domain.readLabel?, if_pos hascii]
  by_cases hshown : isAscii l.shown = true
  · have hstored : l.stored = l.shown := by rw [h.stored, storedForm, if_pos hshown]
    rw [hstored, h.plain, if_neg Bool.false_ne_true, if_pos h.shown]
    rw [storedForm, if_pos hshown] at hform
    rw [← hform]
  · have hstored : l.stored = 'x' :: 'n' :: '-' :: '-' :: Punycode.encode l.shown := by
      rw [h.stored, storedForm, if_neg hshown]
    have hencoded : looksEncoded l.stored = true := looksEncoded_iff.mpr ⟨_, hstored⟩
    -- The bound on the length is that of the decoder.
    have hread : readEncoded? (l.stored.drop 4) = some l.shown := by
      rw [hstored]
      refine readEncoded?_eq_some.mpr ⟨?_, rfl, Bool.eq_false_iff.mpr hshown, h.settled.normal,
        fun c hc => mapped?_of_isChanging (h.settled.unchanging c hc)⟩
      have := hlength hencoded
      rw [hstored] at this
      simp only [List.length_cons] at this
      show (Punycode.encode l.shown).length ≤ 2000
      omega
    rw [if_pos hencoded, hread]
    simp only [h.shown, h.plain, Bool.not_false, Bool.and_true, if_true]

end Label.Proper

/-- An encoded label that is too long is not read. -/
theorem readLabel?_eq_none {label : List Char} (hascii : isAscii label = true)
    (hencoded : looksEncoded label = true) (hlength : 2004 < label.length) :
    readLabel? label = none := by
  obtain ⟨body, rfl⟩ := looksEncoded_iff.mp hencoded
  have hread : readEncoded? body = none := by
    rw [Option.eq_none_iff_forall_ne_some]
    intro shown hshown
    have hbody := (readEncoded?_eq_some.mp hshown).1
    simp only [List.length_cons] at hlength
    omega
  rw [readLabel?, if_pos hascii, if_pos hencoded, List.drop_succ_cons, List.drop_succ_cons,
    List.drop_succ_cons, List.drop_succ_cons, List.drop_zero, hread]

/-! ## Names -/

theorem proper_of_readLabels? {labels : List (List Char)} {ls : List Label}
    (hlabels : ∀ label ∈ labels, Settled label ∧ '.' ∉ label) (h : readLabels? labels = some ls) :
    ∀ l ∈ ls, l.Proper := by
  induction labels generalizing ls with
  | nil =>
      obtain rfl := Option.some.inj h
      nofun
  | cons label rest ih =>
      obtain ⟨hlabel, hrest⟩ := List.forall_mem_cons.mp hlabels
      rw [readLabels?] at h
      split at h
      · next l ls' hl hls =>
        obtain rfl := Option.some.inj h
        exact List.forall_mem_cons.mpr ⟨proper_of_readLabel? hlabel.1 hlabel.2 hl, ih hrest hls⟩
      · cases h

theorem readLabels?_length {labels : List (List Char)} {ls : List Label}
    (h : readLabels? labels = some ls) : ls.length = labels.length := by
  induction labels generalizing ls with
  | nil =>
      obtain rfl := Option.some.inj h
      rfl
  | cons label rest ih =>
      rw [readLabels?] at h
      split at h
      · next l ls' hl hls =>
        obtain rfl := Option.some.inj h
        rw [List.length_cons, List.length_cons, ih hls]
      · cases h

/-- Whether a name has an encoded label that is too long to be read. -/
def hasLongLabel (stored : List Char) : Bool :=
  (splitAtChars (· == '.') stored).any fun label => looksEncoded label && decide (2004 < label.length)

/-- Labels are read again as they are stored, if none is too long for that. -/
theorem readLabels?_stored {ls : List Label} (hproper : ∀ l ∈ ls, l.Proper)
    (hlength : ∀ l ∈ ls, looksEncoded l.stored = true → l.stored.length ≤ 2004) :
    readLabels? (ls.map (·.stored)) = some ls := by
  induction ls with
  | nil => rfl
  | cons l rest ih =>
      obtain ⟨hl, hrest⟩ := List.forall_mem_cons.mp hproper
      obtain ⟨hshort, hshorts⟩ := List.forall_mem_cons.mp hlength
      rw [List.map_cons, readLabels?, hl.readLabel? hshort, ih hrest hshorts]

theorem readLabels?_eq_none {labels : List (List Char)} {label : List Char} (hmem : label ∈ labels)
    (h : readLabel? label = none) : readLabels? labels = none := by
  induction labels with
  | nil => cases hmem
  | cons first rest ih =>
      rw [readLabels?]
      rcases List.mem_cons.mp hmem with rfl | hmem
      · rw [h]
      · rw [ih hmem]
        cases readLabel? first <;> rfl

/-- What is known of a stored name. -/
theorem ofChars?_eq_some {cs stored : List Char} (h : ofChars? cs = some stored) :
    ∃ ls : List Label, ls ≠ [] ∧ (∀ l ∈ ls, l.Proper) ∧
      ¬(ls.any (·.shown.any turns) && !ls.all (keepsOrder ·.shown)) = true ∧
      stored = ['.'].intercalate (ls.map (·.stored)) := by
  rw [ofChars?] at h
  split at h
  · cases h
  · next name hname =>
    split at h
    · cases h
    · next ls hls =>
      split at h
      · cases h
      · next horder =>
        refine ⟨ls, ?_, proper_of_readLabels? (fun label hlabel => ?_) hls, horder,
          (Option.some.inj h).symm⟩
        · rintro rfl
          exact splitAtChars_ne_nil _ (List.eq_nil_of_length_eq_zero (readLabels?_length hls).symm)
        · -- Mapping and composing have settled the name, and so all of its labels.
          have hsettled : Settled label := ⟨normal_of_mem_split hlabel, fun c hc =>
            normal_isChanging (isChanging_of_mem_mappedAll? hname) c
              (mem_of_mem_splitAtChars hlabel hc)⟩
          refine ⟨hsettled, fun hdot => ?_⟩
          have := isSeparator_of_mem_splitAtChars hlabel hdot
          cases this

/-- What a stored name holds. -/
theorem isStored_of_ofChars? {cs stored : List Char} (h : ofChars? cs = some stored) :
    ∀ c ∈ stored, IsStored c := by
  obtain ⟨ls, -, hproper, -, rfl⟩ := ofChars?_eq_some h
  intro c hc
  rcases mem_intercalate hc with hc | ⟨label, hlabel, hc⟩
  · rw [List.mem_singleton.mp hc]
    decide
  · obtain ⟨l, hl, rfl⟩ := List.mem_map.mp hlabel
    exact (hproper l hl).isStored c hc

/-- A stored name is read again as it is stored, unless a label is too long for that. -/
theorem ofChars?_stored {cs stored : List Char} (h : ofChars? cs = some stored) :
    ofChars? stored = if hasLongLabel stored then none else some stored := by
  have hstored := isStored_of_ofChars? h
  obtain ⟨ls, hne, hproper, horder, htext⟩ := ofChars?_eq_some h
  have hascii : isAscii stored = true := isAscii_iff.mpr fun c hc => (hstored c hc).ascii
  have hnormal : Unicode.normal stored = stored := if_pos hascii
  have hsplit : splitAtChars (· == '.') stored = ls.map (·.stored) := by
    rw [htext]
    refine splitAtChars_intercalate (c := '.') rfl (mt List.map_eq_nil_iff.mp hne)
      fun label hlabel c hc => ?_
    obtain ⟨l, hl, rfl⟩ := List.mem_map.mp hlabel
    exact beq_false_of_ne fun heq => (hproper l hl).dotless (heq ▸ hc)
  rw [ofChars?, mappedAll?_of_isChanging fun c hc => (hstored c hc).isChanging]
  simp only [hnormal, hsplit]
  cases hlong : hasLongLabel stored with
  | true =>
      rw [hasLongLabel, hsplit, List.any_map, List.any_eq_true] at hlong
      obtain ⟨l, hl, hlabel⟩ := hlong
      rw [Function.comp_apply, Bool.and_eq_true, decide_eq_true_eq] at hlabel
      have hread : readLabel? l.stored = none := readLabel?_eq_none
        (isAscii_iff.mpr fun c hc => ((hproper l hl).isStored c hc).ascii) hlabel.1 hlabel.2
      rw [readLabels?_eq_none (List.mem_map_of_mem hl) hread]
      rfl
  | false =>
      rw [hasLongLabel, hsplit, List.any_map, List.any_eq_false] at hlong
      have hshort : ∀ l ∈ ls, looksEncoded l.stored = true → l.stored.length ≤ 2004 := by
        intro l hl hencoded
        have hlabel := hlong l hl
        rw [Function.comp_apply, hencoded, Bool.true_and, decide_eq_true_eq] at hlabel
        exact Nat.le_of_not_lt hlabel
      rw [readLabels?_stored hproper hshort]
      simp only [if_neg horder, htext, Bool.false_eq_true, if_false]

/-! ## Plain characters -/

/-- ASCII characters and ideographs. -/
def plainSet : Nat := (2 ^ 128 - 1) ||| ideographSet

/-- A character that is no mark, has no effect on others, and is not written from right to left. -/
def isPlain (c : Char) : Bool := plainSet.testBit c.toNat

set_option maxRecDepth 10000 in
theorem marks_avoids : marks.Avoids plainSet := by
  apply CodeTable.avoids_ofRows
  · repeat apply Spelled.cons
    apply Spelled.nil
  · decide +kernel

set_option maxRecDepth 10000 in
theorem directions_avoids :
    (directions.only fun v => isTurned (Direction.ofValue v)).Avoids plainSet := by
  apply CodeTable.only_avoids_ofRows
  · repeat apply Spelled.cons
    apply Spelled.nil
  · decide +kernel

theorem isPlain_iff {c : Char} :
    isPlain c = true ↔ c.toNat < 128 ∨ 0x4e00 ≤ c.toNat ∧ c.toNat ≤ 0x9fff := by
  rw [isPlain, plainSet, Nat.testBit_or, Nat.testBit_two_pow_sub_one, Bool.or_eq_true,
    decide_eq_true_eq, testBit_ideographSet]

theorem isPlain_of_ascii {c : Char} (h : c.toNat < 128) : isPlain c = true :=
  isPlain_iff.mpr (.inl h)

theorem turns_of_isPlain {c : Char} (h : isPlain c = true) : turns c = false := by
  rw [turns, Direction.ofChar]
  exact CodeTable.value_of_only (p := fun v => isTurned (Direction.ofValue v)) rfl
    (directions_avoids.testBit_eq_false h)

theorem joinersShow_of_isPlain {label : List Char} (h : ∀ c ∈ label, isPlain c = true)
    (before : List Char) : joinersShow before label = true := by
  induction label generalizing before with
  | nil => rfl
  | cons c rest ih =>
      obtain ⟨hc, hrest⟩ := List.forall_mem_cons.mp h
      have hnot : (c == nonJoiner || c == joiner) = false := by
        rw [Bool.or_eq_false_iff]
        constructor <;> refine beq_false_of_ne ?_ <;> rintro rfl
        · exact absurd (isPlain_iff.mp hc) (by decide)
        · exact absurd (isPlain_iff.mp hc) (by decide)
      rw [joinersShow, hnot, ih hrest]
      rfl

theorem mayBeShown_of_isPlain {label : List Char} (hplain : ∀ c ∈ label, isPlain c = true)
    (hallowed : ∀ c ∈ label, isForbidden c = false) : mayBeShown label = true := by
  have hmark : label.head?.any marks.contains = false := by
    cases label with
    | nil => rfl
    | cons c rest =>
        have hc := marks_avoids.testBit_eq_false (hplain c List.mem_cons_self)
        rw [List.head?_cons, Option.any_some, CodeTable.contains_eq_false hc]
  have hforbidden : label.any isForbidden = false :=
    List.any_eq_false.mpr fun c hc => Bool.eq_false_iff.mp (hallowed c hc)
  rw [mayBeShown, hmark, joinersShow_of_isPlain hplain, hforbidden]
  rfl

/-- A label of plain characters is read as itself. -/
theorem readLabel?_of_isPlain {label : List Char} (hplain : ∀ c ∈ label, isPlain c = true)
    (hallowed : ∀ c ∈ label, isForbidden c = false) (hencoded : looksEncoded label = false)
    (hlength : label.length ≤ 1000) : readLabel? label = some ⟨storedForm label, label⟩ := by
  have hshown := mayBeShown_of_isPlain hplain hallowed
  rw [readLabel?, storedForm]
  simp only [hencoded, hshown, hlength, Bool.false_eq_true, if_false, if_true, Bool.not_false,
    Bool.and_true, decide_true]
  split <;> rfl

theorem readLabels?_of_forall {f : List Char → Label} {labels : List (List Char)}
    (h : ∀ label ∈ labels, readLabel? label = some (f label)) :
    readLabels? labels = some (labels.map f) := by
  induction labels with
  | nil => rfl
  | cons label rest ih =>
      obtain ⟨hlabel, hrest⟩ := List.forall_mem_cons.mp h
      rw [readLabels?, hlabel, ih hrest, List.map_cons]

/-- The stored form of a name of plain characters. -/
theorem ofChars?_of_isPlain {cs : List Char}
    (h : ∀ c ∈ cs, isPlain c = true ∧ isChanging c = false ∧ isForbidden c = false)
    (hnormal : Unicode.normal cs = cs)
    (hlabels : ∀ label ∈ splitAtChars (· == '.') cs,
      looksEncoded label = false ∧ label.length ≤ 1000) :
    ofChars? cs = some (['.'].intercalate ((splitAtChars (· == '.') cs).map storedForm)) := by
  have hread : readLabels? (splitAtChars (· == '.') cs) =
      some ((splitAtChars (· == '.') cs).map fun label => ⟨storedForm label, label⟩) := by
    refine readLabels?_of_forall fun label hlabel => ?_
    have hmem := fun c (hc : c ∈ label) => h c (mem_of_mem_splitAtChars hlabel hc)
    exact readLabel?_of_isPlain (fun c hc => (hmem c hc).1) (fun c hc => (hmem c hc).2.2)
      (hlabels label hlabel).1 (hlabels label hlabel).2
  have hturns : (((splitAtChars (· == '.') cs).map fun label =>
      (⟨storedForm label, label⟩ : Label)).any fun l => l.shown.any turns) = false := by
    rw [List.any_map, List.any_eq_false]
    intro label hlabel
    rw [Bool.not_eq_true, Function.comp_apply, List.any_eq_false]
    intro c hc
    rw [turns_of_isPlain (h c (mem_of_mem_splitAtChars hlabel hc)).1]
    nofun
  rw [ofChars?, mappedAll?_of_isChanging fun c hc => (h c hc).2.1]
  simp only [hnormal, hread, hturns, Bool.false_and, Bool.false_eq_true, if_false, List.map_map]
  rfl

/-- A name whose characters can be stored is stored as it is. -/
theorem ofChars?_of_isStored {cs : List Char} (h : ∀ c ∈ cs, IsStored c)
    (hlabels : ∀ label ∈ splitAtChars (· == '.') cs,
      looksEncoded label = false ∧ label.length ≤ 1000) :
    ofChars? cs = some cs := by
  have hname := ofChars?_of_isPlain
    (fun c hc => ⟨isPlain_of_ascii (h c hc).ascii, (h c hc).isChanging, (h c hc).allowed⟩)
    (if_pos (isAscii_iff.mpr fun c hc => (h c hc).ascii)) hlabels
  have hform : (splitAtChars (· == '.') cs).map storedForm = (splitAtChars (· == '.') cs).map id :=
    List.map_congr_left fun label hlabel => if_pos (isAscii_iff.mpr fun c hc =>
      (h c (mem_of_mem_splitAtChars hlabel hc)).ascii)
  rw [hname, hform, List.map_id, intercalate_splitAtChars]

/-- A name of digits and full stops is stored as it is. -/
theorem ofChars?_of_numeric {cs : List Char} (h : ∀ c ∈ cs, c.isDigit = true ∨ c = '.')
    (hlength : ∀ label ∈ splitAtChars (· == '.') cs, label.length ≤ 1000) :
    ofChars? cs = some cs := by
  refine ofChars?_of_isStored (fun c hc => ?_) fun label hlabel => ⟨?_, hlength label hlabel⟩
  · have hascii : c.toNat < 128 := by
      rcases h c hc with hdigit | rfl
      · have := (Json.digit_range hdigit).2
        omega
      · decide
    exact forall_ascii (p := fun c => c.isDigit = true ∨ c = '.' → IsStored c) (by decide)
      hascii (h c hc)
  · rw [← Bool.not_eq_true, looksEncoded_iff]
    rintro ⟨body, rfl⟩
    exact absurd (h 'x' (mem_of_mem_splitAtChars hlabel List.mem_cons_self)) (by decide)

end LoadMonitor.Url.Domain
