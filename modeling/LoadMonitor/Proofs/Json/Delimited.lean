import LoadMonitor.Proofs.Json.Extension
import LoadMonitor.Proofs.Json.Streaming

/-!
# Records that end by themselves

A record is over at its last bracket, whatever is read into its fields. So no text that goes on
after a whole record is a longer record, and no beginning of a record is a record.
-/

namespace LoadMonitor.Json

variable {α δ : Type} {bs rest : Bytes}

/-- The reader stops at the same place in a longer text, if it leaves something over. -/
def Continues (read : Bytes → Reading (α × Bytes)) : Prop :=
  ∀ ⦃bs a rest⦄, read bs = .ok (a, rest) → rest ≠ [] →
    ∀ more, read (bs ++ more) = .ok (a, rest ++ more)

/-- The reader stops at the same place in every longer text. -/
def Delimited (read : Bytes → Reading (α × Bytes)) : Prop :=
  ∀ ⦃bs a rest⦄, read bs = .ok (a, rest) → ∀ more, read (bs ++ more) = .ok (a, rest ++ more)

theorem Delimited.continues {read : Bytes → Reading (α × Bytes)} (h : Delimited read) :
    Continues read :=
  fun _ _ _ hread _ => h hread

theorem stepsFor_le_append (bs more : Bytes) : stepsFor bs ≤ stepsFor (bs ++ more) := by
  unfold stepsFor
  rw [List.length_append]
  omega

/-! ## Single values -/

/-- A value of another kind is never read. -/
theorem wrongType_ne_ok {expected : String} {a : α} : wrongType expected bs ≠ .ok a := by
  intro h
  have hnone := wrongType_toOption (α := α) expected bs
  rw [h] at hnone
  cases hnone

theorem readText_delimited (expected : String) : Delimited (readText expected) := by
  intro bs s rest h more
  unfold readText at h
  split at h
  next => cases h
  next b tail hhead =>
    rw [readText, skipBlanks_append hhead]
    dsimp only
    split at h
    next hquote =>
      rw [if_pos hquote]
      exact readString_append h more
    next => exact absurd h wrongType_ne_ok

theorem readDouble_continues : Continues readDouble := by
  intro bs x rest h hrest more
  unfold readDouble at h
  split at h
  next => cases h
  next b tail hhead =>
    rw [readDouble, skipBlanks_append hhead]
    dsimp only
    split at h
    next hnumeral =>
      obtain ⟨⟨n, rest'⟩, hnumber, h⟩ := Reading.bind_eq_ok.mp h
      cases h
      have hlonger := readNumber_append hnumber hrest more
      rw [List.cons_append] at hlonger
      rw [if_pos hnumeral, hlonger]
      rfl
    next => exact absurd h wrongType_ne_ok

theorem readNull_append (h : readNull bs = .ok rest) (more : Bytes) :
    readNull (bs ++ more) = .ok (rest ++ more) := by
  unfold readNull at h
  split at h
  next => cases h
  next b tail hhead =>
    rw [readNull, skipBlanks_append hhead]
    dsimp only
    split at h
    next hletter =>
      rw [if_pos hletter]
      exact expectBytes_append h more
    next => exact absurd h wrongType_ne_ok

theorem readName_delimited : Delimited readName := by
  intro bs name rest h more
  unfold readName at h
  split at h
  next => cases h
  next b tail hhead =>
    rw [readName, skipBlanks_append hhead]
    dsimp only
    split at h
    next hquote =>
      rw [if_pos hquote]
      exact readString_append h more
    next hquote =>
    rw [if_neg hquote]
    split at h
    next hbrace =>
      obtain ⟨⟨key, colon⟩, hkey, h⟩ := Reading.bind_eq_ok.mp h
      obtain ⟨value, hcolon, h⟩ := Reading.bind_eq_ok.mp h
      obtain ⟨last, hnull, h⟩ := Reading.bind_eq_ok.mp h
      obtain ⟨rest', hend, h⟩ := Reading.bind_eq_ok.mp h
      cases h
      rw [if_pos hbrace]
      simp only [readText_delimited _ hkey, skipColon_append hcolon, readNull_append hnull,
        expectBytes_skipBlanks_append hend, Reading.ok_bind, Reading.pure_eq]
    next => cases h

/-! ## Sequences -/

theorem nextItem_append {isFirst : Bool} {next : Option Bytes}
    (h : nextItem isFirst bs = .ok next) (more : Bytes) :
    nextItem isFirst (bs ++ more) = .ok (next.map (· ++ more)) := by
  unfold nextItem at h
  split at h
  next => cases h
  next b tail hhead =>
    rw [nextItem, skipBlanks_append hhead]
    dsimp only
    split at h
    next hb =>
      cases h
      rw [if_pos hb]
      rfl
    next hb =>
    rw [if_neg hb]
    split at h
    next hfirst =>
      cases h
      rw [if_pos hfirst]
      rfl
    next hfirst =>
    rw [if_neg hfirst]
    split at h
    next hcomma =>
      rw [if_pos hcomma]
      split at h
      next => cases h
      next c behind hnext =>
        rw [skipBlanks_append hnext]
        dsimp only
        split at h
        next => cases h
        next hc =>
          cases h
          rw [if_neg hc]
          rfl
    next => cases h

/-- The elements are over before a bracket that is left over. -/
theorem readListItems_append {read : Bytes → Reading (α × Bytes)} (hread : Continues read)
    {steps steps' : Nat} {isFirst : Bool} {items : List α}
    (h : readListItems read steps isFirst bs = .ok (items, rest)) (hle : steps ≤ steps')
    (more : Bytes) : readListItems read steps' isFirst (bs ++ more) = .ok (items, rest ++ more) := by
  induction steps generalizing steps' isFirst bs items with
  | zero => cases h
  | succ steps ih =>
      obtain ⟨steps', rfl⟩ : ∃ n, steps' = n + 1 := ⟨steps' - 1, by omega⟩
      rw [Nat.add_le_add_iff_right] at hle
      obtain ⟨next, hnext, h⟩ := Reading.bind_eq_ok.mp h
      have hlonger := nextItem_append hnext more
      cases next with
      | none =>
          cases h
          rw [readListItems, hlonger]
          rfl
      | some item =>
          obtain ⟨⟨a, mid⟩, hitem, h⟩ := Reading.bind_eq_ok.mp h
          obtain ⟨⟨as, rest'⟩, hitems, h⟩ := Reading.bind_eq_ok.mp h
          cases h
          -- The sequence goes on behind an element, if only with its bracket.
          have hmid : mid ≠ [] := by
            rintro rfl
            cases steps <;> cases hitems
          rw [readListItems, hlonger, Reading.ok_bind]
          dsimp only [Option.map]
          rw [hread hitem hmid, Reading.ok_bind]
          dsimp only
          rw [ih hitems hle]
          rfl

theorem readList_delimited {read : Bytes → Reading (α × Bytes)} (hread : Continues read) :
    Delimited (readList read) := by
  intro bs items rest h more
  unfold readList at h
  split at h
  next => cases h
  next b tail hhead =>
    rw [readList, skipBlanks_append hhead]
    dsimp only
    split at h
    next hbracket =>
      obtain ⟨⟨as, mid⟩, hitems, h⟩ := Reading.bind_eq_ok.mp h
      obtain ⟨rest', hend, h⟩ := Reading.bind_eq_ok.mp h
      cases h
      have hsteps := stepsFor_le_append tail more
      rw [if_pos hbracket, readListItems_append hread hitems hsteps, Reading.ok_bind]
      dsimp only
      rw [endItems, expectBytes_skipBlanks_append hend]
      rfl
    next => exact absurd h wrongType_ne_ok

/-! ## Records -/

namespace Format

variable {f : Format δ α}

/-- All fields stop at the same place in a longer text, if they leave something over. -/
def FieldsContinue (f : Format δ α) : Prop :=
  ∀ field ∈ f.fields, ∀ draft, Continues (field.read draft)

theorem readMember_continues (hf : f.FieldsContinue) (key : String) (draft : δ) :
    Continues (f.readMember key draft) := by
  intro bs draft' rest h hrest more
  unfold readMember at h ⊢
  split at h
  next field hfield =>
    split at h
    next => cases h
    next hset =>
      obtain ⟨value, hcolon, h⟩ := Reading.bind_eq_ok.mp h
      have hlonger := hf field (List.mem_of_find?_eq_some hfield) draft h hrest more
      rw [if_neg hset, skipColon_append hcolon]
      exact hlonger
  next hnone =>
    obtain ⟨value, hcolon, h⟩ := Reading.bind_eq_ok.mp h
    obtain ⟨rest', hskip, h⟩ := Reading.bind_eq_ok.mp h
    cases h
    have hsteps := stepsFor_le_append value more
    rw [skipColon_append hcolon, Reading.ok_bind,
      (skipsLonger _).value hskip hrest more _ hsteps]
    rfl

theorem readMembers_append (hf : f.FieldsContinue) {steps steps' : Nat} {isFirst : Bool}
    {draft draft' : δ} (h : f.readMembers steps isFirst draft bs = .ok (draft', rest))
    (hle : steps ≤ steps') (more : Bytes) :
    f.readMembers steps' isFirst draft (bs ++ more) = .ok (draft', rest ++ more) := by
  induction steps generalizing steps' isFirst draft bs with
  | zero => cases h
  | succ steps ih =>
      obtain ⟨steps', rfl⟩ : ∃ n, steps' = n + 1 := ⟨steps' - 1, by omega⟩
      rw [Nat.add_le_add_iff_right] at hle
      rw [readMembers] at h
      split at h
      next => cases h
      next b tail hhead =>
        rw [readMembers, skipBlanks_append hhead]
        dsimp only
        split at h
        next hbrace =>
          cases h
          rw [if_pos hbrace]
        next hbrace =>
        rw [if_neg hbrace]
        split at h
        next hnext =>
          rw [if_pos hnext]
          obtain ⟨key, hquote, h⟩ := Reading.bind_eq_ok.mp h
          obtain ⟨⟨name, value⟩, hkey, h⟩ := Reading.bind_eq_ok.mp h
          obtain ⟨⟨draft₁, mid⟩, hmember, h⟩ := Reading.bind_eq_ok.mp h
          -- What is left behind a member has to go on, so its value has been ended.
          have hmid : mid ≠ [] := by
            rintro rfl
            cases steps <;> cases h
          have hquote' : expectBytes [byte '"']
              (if isFirst = true then b :: (tail ++ more) else skipBlanks (tail ++ more)) =
              .ok (key ++ more) := by
            split at hquote
            next hfirst =>
              rw [if_pos hfirst]
              exact expectBytes_append hquote more
            next hfirst =>
              rw [if_neg hfirst]
              exact expectBytes_skipBlanks_append hquote more
          rw [hquote', Reading.ok_bind, readString_append hkey, Reading.ok_bind]
          dsimp only
          rw [readMember_continues hf name draft hmember hmid, Reading.ok_bind]
          exact ih h hle
        next => cases h

theorem readPositions_append (hf : f.FieldsContinue) {fields : List (Field δ)}
    (hfields : ∀ field ∈ fields, field ∈ f.fields) {position : Nat} {draft draft' : δ}
    (h : f.readPositions fields position draft bs = .ok (draft', rest)) (hrest : rest ≠ [])
    (more : Bytes) :
    f.readPositions fields position draft (bs ++ more) = .ok (draft', rest ++ more) := by
  induction fields generalizing position draft bs with
  | nil =>
      cases h
      rfl
  | cons field fields ih =>
      have hlater := fun later hlater => hfields later (List.mem_cons_of_mem _ hlater)
      obtain ⟨next, hnext, h⟩ := Reading.bind_eq_ok.mp h
      rw [readPositions, nextItem_append hnext, Reading.ok_bind]
      cases next with
      | none =>
          dsimp only [Option.map] at h ⊢
          split at h
          next => cases h
          next hrequired =>
            rw [if_neg hrequired]
            exact ih hlater h
      | some item =>
          obtain ⟨⟨draft₁, mid⟩, hitem, h⟩ := Reading.bind_eq_ok.mp h
          -- Behind an element there is another one or what is left over.
          have hmid : mid ≠ [] := by
            rintro rfl
            cases fields with
            | nil =>
                cases h
                exact hrest rfl
            | cons later fields => cases h
          dsimp only [Option.map]
          rw [hf field (hfields field List.mem_cons_self) draft hitem hmid, Reading.ok_bind]
          exact ih hlater h

/-- A record is over at its last bracket. -/
theorem read_delimited (hf : f.FieldsContinue) : Delimited f.read := by
  intro bs a rest h more
  unfold read at h
  split at h
  next => cases h
  next b tail hhead =>
    rw [read, skipBlanks_append hhead]
    dsimp only
    split at h
    next hbrace =>
      obtain ⟨⟨draft, mid⟩, hmembers, h⟩ := Reading.bind_eq_ok.mp h
      obtain ⟨record, hcomplete, h⟩ := Reading.bind_eq_ok.mp h
      cases h
      have hsteps := stepsFor_le_append tail more
      rw [if_pos hbrace, readMembers_append hf hmembers hsteps, Reading.ok_bind]
      dsimp only
      rw [hcomplete]
      rfl
    next hbrace =>
    rw [if_neg hbrace]
    split at h
    next hbracket =>
      obtain ⟨⟨draft, mid⟩, hpositions, h⟩ := Reading.bind_eq_ok.mp h
      obtain ⟨rest', hend, h⟩ := Reading.bind_eq_ok.mp h
      cases h
      -- The bracket is still to come behind the last element.
      have hmid : mid ≠ [] := by
        rintro rfl
        cases hend
      rw [if_pos hbracket, readPositions_append hf (fun _ => id) hpositions hmid, Reading.ok_bind]
      dsimp only
      rw [endItems, expectBytes_skipBlanks_append hend]
      rfl
    next => exact absurd h wrongType_ne_ok

/-- What follows a whole record within another one is blank. -/
theorem ofBytes_append (hf : f.FieldsContinue) {kept lacking : Bytes} {a a' : α}
    (hkept : f.ofBytes kept = .ok a) (hwhole : f.ofBytes (kept ++ lacking) = .ok a') :
    ∀ b ∈ lacking, isBlank b = true := by
  obtain ⟨⟨record, rest⟩, hread, h⟩ := Reading.bind_eq_ok.mp hkept
  obtain ⟨⟨record', rest'⟩, hread', h'⟩ := Reading.bind_eq_ok.mp hwhole
  obtain ⟨_, hend', _⟩ := Reading.bind_eq_ok.mp h'
  -- Both readings leave the same place behind, and nothing but blanks follows it.
  rw [read_delimited hf hread lacking] at hread'
  cases hread'
  have hblank : ∀ b ∈ rest ++ lacking, isBlank b = true := by
    unfold expectEnd at hend'
    split at hend'
    next hempty => exact List.dropWhile_eq_nil_iff.mp (List.isEmpty_iff.mp hempty)
    next => cases hend'
  intro b hb
  exact hblank b (List.mem_append_right _ hb)

end Format
end LoadMonitor.Json
