import LoadMonitor.Json.Skip
import Mathlib.Data.List.DropRight

/-!
# What readers leave

A reader that succeeds leaves less than it was given. Reading a string or a numeral and passing
over it end at the same place; whatever is read can be passed over.
-/

namespace LoadMonitor.Json

/-! ## Readings -/

namespace Reading

variable {α β : Type}

@[simp] theorem pure_eq (a : α) : (pure a : Reading α) = .ok a := rfl

@[simp] theorem throw_eq (e : DecodeError) : (throw e : Reading α) = .error e := rfl

@[simp] theorem ok_bind (a : α) (f : α → Reading β) : (Except.ok a >>= f : Reading β) = f a := rfl

@[simp] theorem error_bind (e : DecodeError) (f : α → Reading β) :
    (Except.error e >>= f : Reading β) = .error e := rfl

theorem bind_eq_ok {x : Reading α} {f : α → Reading β} {b : β} :
    x >>= f = .ok b ↔ ∃ a, x = .ok a ∧ f a = .ok b := by
  cases x with
  | error e => simp
  | ok a => simp

theorem map_eq_ok {x : Reading α} {f : α → β} {b : β} :
    x.map f = .ok b ↔ ∃ a, x = .ok a ∧ f a = b := by
  cases x with
  | error e => simp [Except.map]
  | ok a => simp [Except.map]

theorem toOption_bind (x : Reading α) (f : α → Reading β) :
    (x >>= f).toOption = x.toOption.bind fun a => (f a).toOption := by
  cases x with
  | error e => rfl
  | ok a => rfl

end Reading

/-! ## Blanks and words -/

@[simp] theorem skipBlanks_skipBlanks (bs : Bytes) :
    skipBlanks (skipBlanks bs) = skipBlanks bs := by
  simp [skipBlanks, List.dropWhile_idempotent]

theorem skipBlanks_length (bs : Bytes) : (skipBlanks bs).length ≤ bs.length :=
  (List.dropWhile_suffix _).length_le

theorem length_of_skipBlanks {bs rest : Bytes} {b : UInt8} (h : skipBlanks bs = b :: rest) :
    rest.length < bs.length := by
  have hle := skipBlanks_length bs
  rw [h, List.length_cons] at hle
  exact hle

theorem skipBlanks_cons {b : UInt8} (h : isBlank b = false) (bs : Bytes) :
    skipBlanks (b :: bs) = b :: bs := by
  simp [skipBlanks, h]

theorem expectBytes_eq_ok {ws bs rest : Bytes} :
    expectBytes ws bs = .ok rest ↔ bs = ws ++ rest := by
  induction ws generalizing bs with
  | nil => simp [expectBytes]
  | cons w ws ih =>
      cases bs with
      | nil => simp [expectBytes]
      | cons b bs =>
          by_cases hbw : b = w
          · simp [expectBytes, hbw, ih]
          · simp [expectBytes, hbw]

/-! ## Strings -/

theorem readUnit_length {bs rest : Bytes} {n : Nat} (h : readUnit bs = .ok (n, rest)) :
    rest.length < bs.length := by
  unfold readUnit at h
  split at h
  · split at h
    · cases h
      simp only [List.length_cons]
      omega
    · cases h
  · cases h

theorem readTrailing_eq_ok {lead : Nat} {bs cs rest : Bytes}
    (h : readTrailing lead bs = .ok (cs, rest)) :
    ∃ digits trail, bs = byte '\\' :: byte 'u' :: digits ∧ readUnit digits = .ok (trail, rest) := by
  obtain ⟨letter, hslash, h⟩ := Reading.bind_eq_ok.mp h
  obtain ⟨digits, hletter, h⟩ := Reading.bind_eq_ok.mp h
  obtain ⟨⟨trail, rest'⟩, hunit, h⟩ := Reading.bind_eq_ok.mp h
  refine ⟨digits, trail, ?_, ?_⟩
  · rw [expectBytes_eq_ok.mp hslash, expectBytes_eq_ok.mp hletter]
    rfl
  rw [hunit]
  dsimp only at h
  split at h
  · cases h
    rfl
  · cases h

theorem readEscape_length {bs cs rest : Bytes} (h : readEscape bs = .ok (cs, rest)) :
    rest.length < bs.length := by
  cases bs with
  | nil => cases h
  | cons b bs =>
      rw [readEscape] at h
      split at h
      · cases h
        simp
      · split at h
        · obtain ⟨⟨n, mid⟩, hunit, h⟩ := Reading.bind_eq_ok.mp h
          have hmid := readUnit_length hunit
          dsimp only at h
          split at h
          · cases h
          · split at h
            · obtain ⟨digits, trail, rfl, htrail⟩ := readTrailing_eq_ok h
              have hrest := readUnit_length htrail
              simp only [List.length_cons] at hmid ⊢
              omega
            · cases h
              simp only [List.length_cons]
              omega
        · cases h

/-- An escape can be passed over, one half of a character after the other, if what comes behind
it can. -/
theorem skipPieces_of_readEscape {bs cs rest behind : Bytes} {pieces : Nat}
    (h : readEscape bs = .ok (cs, rest))
    (hrest : ∀ pieces, rest.length ≤ pieces → skipPieces pieces rest = .ok behind)
    (hpieces : bs.length ≤ pieces) :
    skipPieces (pieces + 1) (byte '\\' :: bs) = .ok behind := by
  have hlength := readEscape_length h
  -- the backslash itself
  suffices hskip : skipEscape bs >>= skipPieces pieces = .ok behind by
    simpa +decide [skipPieces] using hskip
  cases bs with
  | nil => cases h
  | cons b bs =>
      rw [readEscape] at h
      split at h
      next c hshort =>
        cases h
        simpa [skipEscape, hshort] using hrest pieces (by simp at hpieces; omega)
      next hshort =>
        split at h
        next hu =>
          subst hu
          obtain ⟨⟨n, mid⟩, hunit, h⟩ := Reading.bind_eq_ok.mp h
          have hmid := readUnit_length hunit
          suffices hgoal : skipPieces pieces mid = .ok behind by
            simpa [skipEscape, hshort, hunit, Except.map] using hgoal
          dsimp only at h
          split at h
          · cases h
          · split at h
            · -- the second half is passed over as an escape of its own
              obtain ⟨digits, trail, rfl, htrail⟩ := readTrailing_eq_ok h
              have hdigits := readUnit_length htrail
              simp only [List.length_cons] at hmid hpieces
              obtain ⟨pieces, rfl⟩ : ∃ k, pieces = k + 1 := ⟨pieces - 1, by omega⟩
              have hback := hrest pieces (by omega)
              simpa +decide [skipPieces, skipEscape, htrail, Except.map] using hback
            · cases h
              exact hrest pieces (by simp at hpieces; omega)
        next => cases h

theorem skipPieces_of_readPieces {n m : Nat} {bs cs rest : Bytes}
    (h : readPieces n bs = .ok (cs, rest)) (hm : bs.length ≤ m) :
    skipPieces m bs = .ok rest := by
  induction n generalizing m bs cs with
  | zero => cases bs <;> cases h
  | succ n ih =>
      cases bs with
      | nil => cases h
      | cons b bs =>
          obtain ⟨m, rfl⟩ : ∃ k, m = k + 1 := ⟨m - 1, by simp at hm; omega⟩
          rw [List.length_cons, Nat.add_le_add_iff_right] at hm
          rw [readPieces] at h
          split at h
          next hquote =>
            cases h
            simp [skipPieces, hquote]
          next hquote =>
            split at h
            next hslash =>
              obtain ⟨⟨c, mid⟩, hescape, h⟩ := Reading.bind_eq_ok.mp h
              obtain ⟨⟨more, rest'⟩, hmore, h⟩ := Reading.bind_eq_ok.mp h
              cases h
              subst hslash
              exact skipPieces_of_readEscape hescape (fun pieces hle => ih hmore hle) hm
            next hslash =>
              split at h
              · cases h
              next hcontrol =>
                obtain ⟨⟨more, rest'⟩, hmore, h⟩ := Reading.bind_eq_ok.mp h
                cases h
                simpa [skipPieces, hquote, hslash, hcontrol] using ih hmore hm

theorem readPieces_length {n : Nat} {bs cs rest : Bytes}
    (h : readPieces n bs = .ok (cs, rest)) : rest.length < bs.length := by
  induction n generalizing bs cs with
  | zero => cases bs <;> cases h
  | succ n ih =>
      cases bs with
      | nil => cases h
      | cons b bs =>
          rw [readPieces] at h
          split at h
          · cases h
            simp
          · split at h
            · obtain ⟨⟨c, mid⟩, hescape, h⟩ := Reading.bind_eq_ok.mp h
              obtain ⟨⟨more, rest'⟩, hmore, h⟩ := Reading.bind_eq_ok.mp h
              cases h
              have hmid := readEscape_length hescape
              have hrest := ih hmore
              rw [List.length_cons]
              omega
            · split at h
              · cases h
              · obtain ⟨⟨more, rest'⟩, hmore, h⟩ := Reading.bind_eq_ok.mp h
                cases h
                have hrest := ih hmore
                rw [List.length_cons]
                omega

theorem readString_eq_ok {bs rest : Bytes} {s : String} :
    readString bs = .ok (s, rest) ↔ ∃ cs, readPieces bs.length bs = .ok (cs, rest) ∧
      String.fromUTF8? ⟨cs.toArray⟩ = some s := by
  unfold readString
  rw [Reading.bind_eq_ok]
  constructor
  · rintro ⟨⟨cs, rest'⟩, hpieces, h⟩
    dsimp only at h
    split at h
    next s' hutf =>
      cases h
      exact ⟨cs, hpieces, hutf⟩
    next => cases h
  · rintro ⟨cs, hpieces, hutf⟩
    refine ⟨(cs, rest), hpieces, ?_⟩
    simp [hutf]

theorem readString_length {bs rest : Bytes} {s : String} (h : readString bs = .ok (s, rest)) :
    rest.length < bs.length := by
  obtain ⟨cs, hpieces, -⟩ := readString_eq_ok.mp h
  exact readPieces_length hpieces

theorem skipString_of_readString {bs rest : Bytes} {s : String}
    (h : readString bs = .ok (s, rest)) : skipString bs = .ok rest := by
  obtain ⟨cs, hpieces, -⟩ := readString_eq_ok.mp h
  exact skipPieces_of_readPieces hpieces (Nat.le_refl _)

/-! ## Numerals

What the end of the text counts as does not matter where a numeral is read. -/

section Numerals

variable (atEnd atEnd' : DecodeError) {bs rest : Bytes}

theorem readSomeDigits_eq_ok {atEnd : DecodeError} {x : List Nat × Bytes} :
    readSomeDigits atEnd bs = .ok x ↔
      (∃ b more, bs = b :: more ∧ isDigit b = true) ∧ readDigits bs = x := by
  cases bs with
  | nil => simp [readSomeDigits]
  | cons b bs =>
      cases hdigit : isDigit b with
      | false => simp [readSomeDigits, hdigit]
      | true => simp [readSomeDigits, hdigit]

theorem readSomeDigits_atEnd {x : List Nat × Bytes} :
    readSomeDigits atEnd bs = .ok x ↔ readSomeDigits atEnd' bs = .ok x := by
  rw [readSomeDigits_eq_ok, readSomeDigits_eq_ok]

theorem readWhole_atEnd {x : List Nat × Bytes} :
    readWhole atEnd bs = .ok x ↔ readWhole atEnd' bs = .ok x := by
  simp only [readWhole, Reading.bind_eq_ok, readSomeDigits_atEnd atEnd atEnd']

theorem readPlaces_atEnd {x : Option (List Nat) × Bytes} :
    readPlaces atEnd bs = .ok x ↔ readPlaces atEnd' bs = .ok x := by
  cases bs with
  | nil => rfl
  | cons b bs =>
      rw [readPlaces, readPlaces]
      split
      · simp only [Reading.bind_eq_ok, readSomeDigits_atEnd atEnd atEnd']
      · rfl

theorem readExponent_atEnd {x : Option Int × Bytes} :
    readExponent atEnd bs = .ok x ↔ readExponent atEnd' bs = .ok x := by
  cases bs with
  | nil => rfl
  | cons b bs =>
      rw [readExponent, readExponent]
      split
      · simp only [Reading.bind_eq_ok, readSomeDigits_atEnd atEnd atEnd']
      · rfl

theorem readUnsigned_atEnd {negative : Bool} {x : Numeral × Bytes} :
    readUnsigned atEnd negative bs = .ok x ↔ readUnsigned atEnd' negative bs = .ok x := by
  simp only [readUnsigned, Reading.bind_eq_ok, readWhole_atEnd atEnd atEnd',
    readPlaces_atEnd atEnd atEnd', readExponent_atEnd atEnd atEnd']

theorem readNumeral_atEnd {x : Numeral × Bytes} :
    readNumeral atEnd bs = .ok x ↔ readNumeral atEnd' bs = .ok x := by
  cases bs with
  | nil => exact readUnsigned_atEnd atEnd atEnd'
  | cons b bs =>
      rw [readNumeral, readNumeral]
      split
      · exact readUnsigned_atEnd atEnd atEnd'
      · exact readUnsigned_atEnd atEnd atEnd'

theorem skipNumeral_of_readNumeral {atEnd : DecodeError} {n : Numeral}
    (h : readNumeral atEnd bs = .ok (n, rest)) : skipNumeral bs = .ok rest :=
  Reading.map_eq_ok.mpr ⟨(n, rest), (readNumeral_atEnd atEnd .malformed).mp h, rfl⟩

/-! ### Lengths -/

variable {atEnd}

theorem readSomeDigits_length {ds : List Nat} (h : readSomeDigits atEnd bs = .ok (ds, rest)) :
    rest.length < bs.length := by
  obtain ⟨⟨b, more, rfl, hdigit⟩, hdigits⟩ := readSomeDigits_eq_ok.mp h
  have hrest : rest = more.dropWhile isDigit := by
    simpa [readDigits, hdigit] using (congrArg Prod.snd hdigits).symm
  rw [hrest, List.length_cons]
  exact Nat.lt_succ_of_le (List.dropWhile_suffix _).length_le

theorem readWhole_length {ds : List Nat} (h : readWhole atEnd bs = .ok (ds, rest)) :
    rest.length < bs.length := by
  obtain ⟨⟨ds', rest'⟩, hdigits, h⟩ := Reading.bind_eq_ok.mp h
  have hlength := readSomeDigits_length hdigits
  dsimp only at h
  split at h
  · cases h
  · cases h
    exact hlength

theorem readPlaces_length {places : Option (List Nat)}
    (h : readPlaces atEnd bs = .ok (places, rest)) : rest.length ≤ bs.length := by
  cases bs with
  | nil =>
      cases h
      exact Nat.le_refl _
  | cons b bs =>
      rw [readPlaces] at h
      split at h
      · obtain ⟨⟨ds, rest'⟩, hdigits, h⟩ := Reading.bind_eq_ok.mp h
        cases h
        exact Nat.le_succ_of_le (Nat.le_of_lt (readSomeDigits_length hdigits))
      · cases h
        exact Nat.le_refl _

theorem readSign_length (bs : Bytes) : (readSign bs).2.length ≤ bs.length := by
  unfold readSign
  split
  · split
    · simp
    · split <;> simp
  · simp

theorem readExponent_length {exponent : Option Int}
    (h : readExponent atEnd bs = .ok (exponent, rest)) : rest.length ≤ bs.length := by
  cases bs with
  | nil =>
      cases h
      exact Nat.le_refl _
  | cons b bs =>
      rw [readExponent] at h
      split at h
      · obtain ⟨⟨ds, rest'⟩, hdigits, h⟩ := Reading.bind_eq_ok.mp h
        cases h
        have hlength := readSomeDigits_length hdigits
        exact Nat.le_succ_of_le ((Nat.le_of_lt hlength).trans (readSign_length bs))
      · cases h
        exact Nat.le_refl _

theorem readUnsigned_length {negative : Bool} {n : Numeral}
    (h : readUnsigned atEnd negative bs = .ok (n, rest)) : rest.length < bs.length := by
  obtain ⟨⟨whole, afterWhole⟩, hwhole, h⟩ := Reading.bind_eq_ok.mp h
  obtain ⟨⟨places, afterPlaces⟩, hplaces, h⟩ := Reading.bind_eq_ok.mp h
  obtain ⟨⟨exponent, rest'⟩, hexponent, h⟩ := Reading.bind_eq_ok.mp h
  cases h
  calc rest.length
    _ ≤ afterPlaces.length := readExponent_length hexponent
    _ ≤ afterWhole.length := readPlaces_length hplaces
    _ < bs.length := readWhole_length hwhole

theorem readNumeral_length {n : Numeral} (h : readNumeral atEnd bs = .ok (n, rest)) :
    rest.length < bs.length := by
  cases bs with
  | nil => exact readUnsigned_length h
  | cons b bs =>
      rw [readNumeral] at h
      split at h
      · exact Nat.lt_succ_of_lt (readUnsigned_length h)
      · exact readUnsigned_length h

end Numerals

/-! ## Passing over sequences and objects -/

/-- One round of passing over a sequence or an object: its end, or a part of it and what is behind
that. -/
def skipRound (close : UInt8) (part others : Bytes → Reading Bytes) (isFirst : Bool) (bs : Bytes) :
    Reading Bytes :=
  match skipBlanks bs with
  | [] => .error .truncated
  | b :: rest =>
    if b = close then .ok rest
    else if isFirst then part (b :: rest) >>= others
    else if b = byte ',' then part rest >>= others
    else .error .malformed

theorem skipItems_succ (steps : Nat) (isFirst : Bool) (bs : Bytes) :
    skipItems (steps + 1) isFirst bs =
      skipRound (byte ']') (skipValue steps) (skipItems steps false) isFirst bs := by
  rw [skipItems]
  rfl

theorem skipMembers_succ (steps : Nat) (isFirst : Bool) (bs : Bytes) :
    skipMembers (steps + 1) isFirst bs =
      skipRound (byte '\x7d') (skipMember steps) (skipMembers steps false) isFirst bs := by
  rw [skipMembers]
  rfl

end LoadMonitor.Json
