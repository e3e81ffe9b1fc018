import LoadMonitor.Proofs.Json.Scanning

/-!
# Longer texts

What has been read stays read when the text goes on. A reader of strings, sequences or objects
knows by itself where to stop; a reader of values in general stops within the text only if it
leaves something over, as a numeral at the end of a text might have gone on.
-/

namespace LoadMonitor.Json

variable {bs rest : Bytes} {b : UInt8}

/-! ## Blanks and words -/

theorem skipBlanks_append (h : skipBlanks bs = b :: rest) (more : Bytes) :
    skipBlanks (bs ++ more) = b :: (rest ++ more) := by
  unfold skipBlanks at h ⊢
  rw [List.dropWhile_append, h]
  rfl

theorem expectBytes_append {word : Bytes} (h : expectBytes word bs = .ok rest) (more : Bytes) :
    expectBytes word (bs ++ more) = .ok (rest ++ more) := by
  rw [expectBytes_eq_ok] at h ⊢
  rw [h, List.append_assoc]

/-- A word that is at the beginning of what follows the blanks. -/
theorem expectBytes_skipBlanks_append (h : expectBytes [b] (skipBlanks bs) = .ok rest)
    (more : Bytes) : expectBytes [b] (skipBlanks (bs ++ more)) = .ok (rest ++ more) := by
  rw [expectBytes_eq_ok, List.singleton_append] at h ⊢
  exact skipBlanks_append h more

theorem skipColon_append (h : skipColon bs = .ok rest) (more : Bytes) :
    skipColon (bs ++ more) = .ok (rest ++ more) :=
  expectBytes_skipBlanks_append h more

/-! ## Strings -/

theorem readUnit_append {n : Nat} (h : readUnit bs = .ok (n, rest)) (more : Bytes) :
    readUnit (bs ++ more) = .ok (n, rest ++ more) := by
  unfold readUnit at h
  split at h
  · split at h
    next hunit =>
      cases h
      simp [readUnit, hunit]
    next => cases h
  · cases h

theorem readTrailing_append {lead : Nat} {cs : Bytes} (h : readTrailing lead bs = .ok (cs, rest))
    (more : Bytes) : readTrailing lead (bs ++ more) = .ok (cs, rest ++ more) := by
  obtain ⟨letter, hslash, h⟩ := Reading.bind_eq_ok.mp h
  obtain ⟨digits, hletter, h⟩ := Reading.bind_eq_ok.mp h
  obtain ⟨⟨trail, rest'⟩, hunit, h⟩ := Reading.bind_eq_ok.mp h
  simp only [readTrailing, expectBytes_append hslash, expectBytes_append hletter,
    readUnit_append hunit, Reading.ok_bind]
  dsimp only at h
  split at h
  next htrail =>
    cases h
    rw [if_pos htrail]
    rfl
  next => cases h

theorem readEscape_append {cs : Bytes} (h : readEscape bs = .ok (cs, rest)) (more : Bytes) :
    readEscape (bs ++ more) = .ok (cs, rest ++ more) := by
  cases bs with
  | nil => cases h
  | cons b bs =>
      rw [readEscape] at h
      rw [List.cons_append, readEscape]
      split at h
      next =>
        cases h
        rfl
      next =>
        split at h
        next hu =>
          obtain ⟨⟨n, mid⟩, hunit, h⟩ := Reading.bind_eq_ok.mp h
          rw [if_pos hu, readUnit_append hunit, Reading.ok_bind]
          dsimp only at h ⊢
          split at h
          next => cases h
          next htrail =>
            rw [if_neg htrail]
            -- A leading half draws the trailing one in, which is in the text as well.
            split at h
            next hlead =>
              rw [if_pos hlead]
              exact readTrailing_append h more
            next hlead =>
              cases h
              rw [if_neg hlead]
              rfl
        next => cases h

theorem skipEscape_append (h : skipEscape bs = .ok rest) (more : Bytes) :
    skipEscape (bs ++ more) = .ok (rest ++ more) := by
  cases bs with
  | nil => cases h
  | cons b bs =>
      rw [skipEscape] at h
      rw [List.cons_append, skipEscape]
      split at h
      next hshort =>
        cases h
        rw [if_pos hshort]
      next hshort =>
        rw [if_neg hshort]
        split at h
        next hu =>
          obtain ⟨⟨n, rest'⟩, hunit, rfl⟩ := Reading.map_eq_ok.mp h
          rw [if_pos hu, readUnit_append hunit]
          rfl
        next => cases h

/-- More pieces than are needed do not matter. -/
theorem readPieces_append {pieces pieces' : Nat} {cs : Bytes}
    (h : readPieces pieces bs = .ok (cs, rest)) (hle : pieces ≤ pieces') (more : Bytes) :
    readPieces pieces' (bs ++ more) = .ok (cs, rest ++ more) := by
  induction pieces generalizing pieces' bs cs with
  | zero => cases bs <;> cases h
  | succ pieces ih =>
      obtain ⟨pieces', rfl⟩ : ∃ n, pieces' = n + 1 := ⟨pieces' - 1, by omega⟩
      rw [Nat.add_le_add_iff_right] at hle
      cases bs with
      | nil => cases h
      | cons b bs =>
          rw [readPieces] at h
          rw [List.cons_append, readPieces]
          split at h
          -- A quote ends the string whatever is behind it.
          next hquote =>
            cases h
            rw [if_pos hquote]
          next hquote =>
          rw [if_neg hquote]
          split at h
          next hslash =>
            obtain ⟨⟨c, mid⟩, hescape, h⟩ := Reading.bind_eq_ok.mp h
            obtain ⟨⟨cs', rest'⟩, hmore, h⟩ := Reading.bind_eq_ok.mp h
            cases h
            rw [if_pos hslash, readEscape_append hescape, Reading.ok_bind]
            dsimp only
            rw [ih hmore hle]
            rfl
          next hslash =>
          rw [if_neg hslash]
          split at h
          next => cases h
          next hcontrol =>
            obtain ⟨⟨cs', rest'⟩, hmore, h⟩ := Reading.bind_eq_ok.mp h
            cases h
            rw [if_neg hcontrol, ih hmore hle]
            rfl

theorem readString_append {s : String} (h : readString bs = .ok (s, rest)) (more : Bytes) :
    readString (bs ++ more) = .ok (s, rest ++ more) := by
  rw [readString_eq_ok] at h ⊢
  obtain ⟨cs, hpieces, hutf⟩ := h
  have hlength : bs.length ≤ (bs ++ more).length := by simp
  exact ⟨cs, readPieces_append hpieces hlength more, hutf⟩

theorem skipPieces_append {pieces pieces' : Nat} (h : skipPieces pieces bs = .ok rest)
    (hle : pieces ≤ pieces') (more : Bytes) :
    skipPieces pieces' (bs ++ more) = .ok (rest ++ more) := by
  induction pieces generalizing pieces' bs with
  | zero => cases bs <;> cases h
  | succ pieces ih =>
      obtain ⟨pieces', rfl⟩ : ∃ n, pieces' = n + 1 := ⟨pieces' - 1, by omega⟩
      rw [Nat.add_le_add_iff_right] at hle
      cases bs with
      | nil => cases h
      | cons b bs =>
          rw [skipPieces] at h
          rw [List.cons_append, skipPieces]
          split at h
          next hquote =>
            cases h
            rw [if_pos hquote]
          next hquote =>
          rw [if_neg hquote]
          split at h
          next hslash =>
            obtain ⟨mid, hescape, h⟩ := Reading.bind_eq_ok.mp h
            rw [if_pos hslash, skipEscape_append hescape, Reading.ok_bind]
            exact ih h hle
          next hslash =>
          rw [if_neg hslash]
          split at h
          next => cases h
          next hcontrol =>
            rw [if_neg hcontrol]
            exact ih h hle

theorem skipString_append (h : skipString bs = .ok rest) (more : Bytes) :
    skipString (bs ++ more) = .ok (rest ++ more) :=
  skipPieces_append h (by simp) more

/-! ## Numerals

A numeral that ends within the text has been ended by what follows it. -/

section Numerals

variable {atEnd : DecodeError}

theorem readDigits_append {ds : List Nat} (h : readDigits bs = (ds, rest)) (hrest : rest ≠ [])
    (more : Bytes) : readDigits (bs ++ more) = (ds, rest ++ more) := by
  obtain ⟨rfl, rfl⟩ := Prod.mk.inj h
  -- Some byte of the text is no digit, so no byte behind the text counts.
  have hshort : (bs.takeWhile isDigit).length ≠ bs.length := by
    intro heq
    have hsplit := congrArg List.length (List.takeWhile_append_dropWhile (p := isDigit) (l := bs))
    rw [List.length_append] at hsplit
    exact hrest (List.length_eq_zero_iff.mp (by omega))
  unfold readDigits
  rw [List.takeWhile_append, if_neg hshort, List.dropWhile_append,
    if_neg (by simpa using hrest)]

theorem readSomeDigits_append {ds : List Nat} (h : readSomeDigits atEnd bs = .ok (ds, rest))
    (hrest : rest ≠ []) (more : Bytes) :
    readSomeDigits atEnd (bs ++ more) = .ok (ds, rest ++ more) := by
  rw [readSomeDigits_eq_ok] at h ⊢
  obtain ⟨⟨b, tail, rfl, hdigit⟩, hdigits⟩ := h
  exact ⟨⟨b, tail ++ more, rfl, hdigit⟩, readDigits_append hdigits hrest more⟩

theorem readWhole_append {ds : List Nat} (h : readWhole atEnd bs = .ok (ds, rest))
    (hrest : rest ≠ []) (more : Bytes) : readWhole atEnd (bs ++ more) = .ok (ds, rest ++ more) := by
  obtain ⟨⟨ds', rest'⟩, hdigits, h⟩ := Reading.bind_eq_ok.mp h
  dsimp only at h
  split at h
  next => cases h
  next hzero =>
    cases h
    rw [readWhole, readSomeDigits_append hdigits hrest, Reading.ok_bind]
    simp only [Reading.pure_eq]

theorem readPlaces_append {places : Option (List Nat)}
    (h : readPlaces atEnd bs = .ok (places, rest)) (hrest : rest ≠ []) (more : Bytes) :
    readPlaces atEnd (bs ++ more) = .ok (places, rest ++ more) := by
  cases bs with
  | nil =>
      cases h
      exact absurd rfl hrest
  | cons b bs =>
      rw [readPlaces] at h
      rw [List.cons_append, readPlaces]
      split at h
      next hpoint =>
        obtain ⟨⟨ds, rest'⟩, hdigits, h⟩ := Reading.bind_eq_ok.mp h
        cases h
        rw [if_pos hpoint, readSomeDigits_append hdigits hrest]
        rfl
      next hpoint =>
        cases h
        rw [if_neg hpoint]
        rfl

theorem readSign_append {negative : Bool} (h : readSign bs = (negative, rest)) (hrest : rest ≠ [])
    (more : Bytes) : readSign (bs ++ more) = (negative, rest ++ more) := by
  cases bs with
  | nil =>
      cases h
      -- With nothing left over, what is added might begin with a sign.
      exact absurd rfl hrest
  | cons b bs =>
      unfold readSign at h ⊢
      dsimp only [List.cons_append] at h ⊢
      split at h
      next hminus =>
        cases h
        rw [if_pos hminus]
      next hminus =>
        rw [if_neg hminus]
        split at h
        next hplus =>
          cases h
          rw [if_pos hplus]
        next hplus =>
          cases h
          rw [if_neg hplus]
          rfl

theorem readExponent_append {exponent : Option Int}
    (h : readExponent atEnd bs = .ok (exponent, rest)) (hrest : rest ≠ []) (more : Bytes) :
    readExponent atEnd (bs ++ more) = .ok (exponent, rest ++ more) := by
  cases bs with
  | nil =>
      cases h
      -- With nothing left over, what is added might begin with an exponent.
      exact absurd rfl hrest
  | cons b bs =>
      rw [readExponent] at h
      rw [List.cons_append, readExponent]
      split at h
      next hletter =>
        rcases hsign : readSign bs with ⟨negative, digits⟩
        rw [hsign] at h
        obtain ⟨⟨ds, rest'⟩, hdigits, h⟩ := Reading.bind_eq_ok.mp h
        cases h
        have hsome : digits ≠ [] := by
          rintro rfl
          cases hdigits
        rw [if_pos hletter, readSign_append hsign hsome]
        dsimp only
        rw [readSomeDigits_append hdigits hrest]
        rfl
      next hletter =>
        cases h
        rw [if_neg hletter]
        rfl

theorem readUnsigned_append {negative : Bool} {n : Numeral}
    (h : readUnsigned atEnd negative bs = .ok (n, rest)) (hrest : rest ≠ []) (more : Bytes) :
    readUnsigned atEnd negative (bs ++ more) = .ok (n, rest ++ more) := by
  obtain ⟨⟨whole, afterWhole⟩, hwhole, h⟩ := Reading.bind_eq_ok.mp h
  obtain ⟨⟨places, afterPlaces⟩, hplaces, h⟩ := Reading.bind_eq_ok.mp h
  obtain ⟨⟨exponent, rest'⟩, hexponent, h⟩ := Reading.bind_eq_ok.mp h
  cases h
  -- What is left at the end was left before as well.
  have hpositive := List.length_pos_iff.mpr hrest
  have hlast := readExponent_length hexponent
  have hmiddle := readPlaces_length hplaces
  have hafterPlaces : afterPlaces ≠ [] := List.length_pos_iff.mp (by omega)
  have hafterWhole : afterWhole ≠ [] := List.length_pos_iff.mp (by omega)
  simp only [readUnsigned, readWhole_append hwhole hafterWhole,
    readPlaces_append hplaces hafterPlaces, readExponent_append hexponent hrest,
    Reading.ok_bind, Reading.pure_eq]

theorem readNumeral_append {n : Numeral} (h : readNumeral atEnd bs = .ok (n, rest))
    (hrest : rest ≠ []) (more : Bytes) :
    readNumeral atEnd (bs ++ more) = .ok (n, rest ++ more) := by
  cases bs with
  | nil => cases h
  | cons b bs =>
      rw [readNumeral] at h
      rw [List.cons_append, readNumeral]
      split at h
      next hminus =>
        rw [if_pos hminus]
        exact readUnsigned_append h hrest more
      next hminus =>
        rw [if_neg hminus]
        exact readUnsigned_append h hrest more

theorem readNumber_append {x : Number} (h : readNumber bs = .ok (x, rest)) (hrest : rest ≠ [])
    (more : Bytes) : readNumber (bs ++ more) = .ok (x, rest ++ more) := by
  obtain ⟨⟨n, rest'⟩, hnumeral, h⟩ := Reading.bind_eq_ok.mp h
  dsimp only at h
  split at h
  next hvalue =>
    cases h
    simp only [readNumber, readNumeral_append hnumeral hrest, Reading.ok_bind, hvalue,
      Reading.pure_eq]
  next => cases h

theorem skipNumeral_append (h : skipNumeral bs = .ok rest) (hrest : rest ≠ []) (more : Bytes) :
    skipNumeral (bs ++ more) = .ok (rest ++ more) := by
  obtain ⟨⟨n, rest'⟩, hnumeral, rfl⟩ := Reading.map_eq_ok.mp h
  rw [skipNumeral, readNumeral_append hnumeral hrest]
  rfl

end Numerals

/-! ## Passing over values -/

theorem skipRound_append {close : UInt8} {part part' others others' : Bytes → Reading Bytes}
    {isFirst : Bool} {more : Bytes} (h : skipRound close part others isFirst bs = .ok rest)
    (hend : others [] = .error .truncated)
    (hpart : ∀ bs mid, part bs = .ok mid → mid ≠ [] → part' (bs ++ more) = .ok (mid ++ more))
    (hothers : ∀ bs out, others bs = .ok out → others' (bs ++ more) = .ok (out ++ more)) :
    skipRound close part' others' isFirst (bs ++ more) = .ok (rest ++ more) := by
  -- What is left behind a part has to go on, so the part has been ended.
  have hround : ∀ bs, (part bs >>= others) = .ok rest →
      (part' (bs ++ more) >>= others') = .ok (rest ++ more) := by
    intro bs h
    obtain ⟨mid, hread, h⟩ := Reading.bind_eq_ok.mp h
    have hmid : mid ≠ [] := by
      rintro rfl
      rw [hend] at h
      cases h
    rw [hpart bs mid hread hmid, Reading.ok_bind]
    exact hothers mid rest h
  unfold skipRound at h
  split at h
  next => cases h
  next b tail hhead =>
    rw [skipRound, skipBlanks_append hhead]
    dsimp only
    split at h
    next hb =>
      cases h
      rw [if_pos hb]
    next hb =>
    rw [if_neg hb]
    split at h
    next hfirst =>
      rw [if_pos hfirst]
      exact hround _ h
    next hfirst =>
    rw [if_neg hfirst]
    split at h
    next hcomma =>
      rw [if_pos hcomma]
      exact hround _ h
    next => cases h

/-- What has been passed over in a number of steps is passed over in a longer text as well, in
that number of steps or in more. A value has to leave something over, unless it is known to end. -/
structure SkipsLonger (steps : Nat) : Prop where
  value {bs rest : Bytes} : skipValue steps bs = .ok rest → rest ≠ [] →
    ∀ more steps', steps ≤ steps' → skipValue steps' (bs ++ more) = .ok (rest ++ more)
  items {isFirst : Bool} {bs rest : Bytes} : skipItems steps isFirst bs = .ok rest →
    ∀ more steps', steps ≤ steps' → skipItems steps' isFirst (bs ++ more) = .ok (rest ++ more)
  members {isFirst : Bool} {bs rest : Bytes} : skipMembers steps isFirst bs = .ok rest →
    ∀ more steps', steps ≤ steps' → skipMembers steps' isFirst (bs ++ more) = .ok (rest ++ more)
  member {bs rest : Bytes} : skipMember steps bs = .ok rest → rest ≠ [] →
    ∀ more steps', steps ≤ steps' → skipMember steps' (bs ++ more) = .ok (rest ++ more)

namespace SkipsLonger

variable {steps steps' : Nat} {isFirst : Bool}

theorem skipItems_nil : skipItems steps isFirst [] = .error .truncated := by
  cases steps <;> rfl

theorem skipMembers_nil : skipMembers steps isFirst [] = .error .truncated := by
  cases steps <;> rfl

theorem value_succ (ih : SkipsLonger steps) (h : skipValue (steps + 1) bs = .ok rest)
    (hrest : rest ≠ []) (more : Bytes) (hle : steps ≤ steps') :
    skipValue (steps' + 1) (bs ++ more) = .ok (rest ++ more) := by
  rw [skipValue] at h
  split at h
  next => cases h
  next b tail hhead =>
    rw [skipValue, skipBlanks_append hhead]
    dsimp only
    -- The first byte decides, and it stays the first one when the text goes on.
    split at h
    next hb =>
      rw [if_pos hb]
      exact expectBytes_append h more
    next hb =>
    rw [if_neg hb]
    split at h
    next hb =>
      rw [if_pos hb]
      exact expectBytes_append h more
    next hb =>
    rw [if_neg hb]
    split at h
    next hb =>
      rw [if_pos hb]
      exact expectBytes_append h more
    next hb =>
    rw [if_neg hb]
    split at h
    next hb =>
      rw [if_pos hb]
      exact skipString_append h more
    next hb =>
    rw [if_neg hb]
    split at h
    next hb =>
      rw [if_pos hb]
      exact ih.items h more _ hle
    next hb =>
    rw [if_neg hb]
    split at h
    next hb =>
      rw [if_pos hb]
      exact ih.members h more _ hle
    next hb =>
    rw [if_neg hb]
    split at h
    next hb =>
      rw [if_pos hb]
      exact skipNumeral_append h hrest more
    next => cases h

theorem items_succ (ih : SkipsLonger steps) (h : skipItems (steps + 1) isFirst bs = .ok rest)
    (more : Bytes) (hle : steps ≤ steps') :
    skipItems (steps' + 1) isFirst (bs ++ more) = .ok (rest ++ more) := by
  rw [skipItems_succ] at h ⊢
  apply skipRound_append h skipItems_nil
  · intro bs mid hvalue hmid
    exact ih.value hvalue hmid more _ hle
  · intro bs out hitems
    exact ih.items hitems more _ hle

theorem members_succ (ih : SkipsLonger steps)
    (h : skipMembers (steps + 1) isFirst bs = .ok rest) (more : Bytes) (hle : steps ≤ steps') :
    skipMembers (steps' + 1) isFirst (bs ++ more) = .ok (rest ++ more) := by
  rw [skipMembers_succ] at h ⊢
  apply skipRound_append h skipMembers_nil
  · intro bs mid hmember hmid
    exact ih.member hmember hmid more _ hle
  · intro bs out hmembers
    exact ih.members hmembers more _ hle

theorem member_succ (ih : SkipsLonger steps) (h : skipMember (steps + 1) bs = .ok rest)
    (hrest : rest ≠ []) (more : Bytes) (hle : steps ≤ steps') :
    skipMember (steps' + 1) (bs ++ more) = .ok (rest ++ more) := by
  obtain ⟨key, hquote, h⟩ := Reading.bind_eq_ok.mp h
  obtain ⟨colon, hkey, h⟩ := Reading.bind_eq_ok.mp h
  obtain ⟨value, hcolon, h⟩ := Reading.bind_eq_ok.mp h
  simp only [skipMember, expectBytes_skipBlanks_append hquote, skipString_append hkey,
    skipColon_append hcolon, Reading.ok_bind]
  exact ih.value h hrest more _ hle

end SkipsLonger

/-- The induction is on the steps; each step of a piece is one step of the longer text. -/
theorem skipsLonger (steps : Nat) : SkipsLonger steps := by
  induction steps with
  | zero => exact ⟨nofun, nofun, nofun, nofun⟩
  | succ steps ih =>
      refine ⟨fun h hrest more steps' hle => ?_, fun h more steps' hle => ?_,
        fun h more steps' hle => ?_, fun h hrest more steps' hle => ?_⟩
      all_goals obtain ⟨steps', rfl⟩ : ∃ n, steps' = n + 1 := ⟨steps' - 1, by omega⟩
      all_goals rw [Nat.add_le_add_iff_right] at hle
      · exact ih.value_succ h hrest more hle
      · exact ih.items_succ h more hle
      · exact ih.members_succ h more hle
      · exact ih.member_succ h hrest more hle

end LoadMonitor.Json
