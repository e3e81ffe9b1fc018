import LoadMonitor.Json.Message
import LoadMonitor.Json.Record
import LoadMonitor.Proofs.Json.Scanning
import LoadMonitor.Proofs.Text.Control

/-!
# What failures say

A message about a JSON text holds nothing of the text itself, save for a number or a string that
stands in the wrong place. Numbers are written anew and strings are quoted, so no message holds a
control, whatever the text holds.
-/

namespace LoadMonitor.Json

variable {α β δ : Type}

/-- If reading fails, the message about it has no controls. -/
def FailsTamely (r : Reading α) : Prop := ∀ cause, r = .error cause → Tame cause.text

/-! ## Messages -/

theorem tame_found (found : Found) : Tame found.text := by
  cases found with
  | boolean value => cases value <;> exact .of_all (by decide)
  | integer i => exact .append (.append (.of_all (by decide)) (tame_int i)) (.of_all (by decide))
  | floating x =>
      exact .append (.append (.of_all (by decide)) x.tame_shortestText) (.of_all (by decide))
  | string s => exact .append (.of_all (by decide)) (Quoted.tame_text s)
  | _ => exact .of_all (by decide)

theorem tame_wrongType {found : Found} {expected : String} (h : Tame expected) :
    Tame (DecodeError.mismatch (.wrongType found expected)).text :=
  .append (.append (.append (.of_all (by decide)) (tame_found found)) (.of_all (by decide))) h

theorem tame_missingField {field : String} (h : Tame field) :
    Tame (DecodeError.mismatch (.missingField field)).text :=
  .append (.append (.of_all (by decide)) h) (.of_all (by decide))

theorem tame_duplicateField {field : String} (h : Tame field) :
    Tame (DecodeError.mismatch (.duplicateField field)).text :=
  .append (.append (.of_all (by decide)) h) (.of_all (by decide))

theorem tame_tooShort {length : Nat} {expected : String} (h : Tame expected) :
    Tame (DecodeError.mismatch (.tooShort length expected)).text :=
  .append (.append (.append (.of_all (by decide)) (tame_nat length)) (.of_all (by decide))) h

/-! ## Steps of reading -/

namespace FailsTamely

theorem ok (a : α) : FailsTamely (.ok a) := by
  intro cause h
  cases h

theorem error {cause : DecodeError} (h : Tame cause.text) :
    FailsTamely (.error cause : Reading α) := by
  intro cause' heq
  cases heq
  exact h

theorem truncated : FailsTamely (.error .truncated : Reading α) := .error (.of_all (by decide))

theorem malformed : FailsTamely (.error .malformed : Reading α) := .error (.of_all (by decide))

theorem bind {r : Reading α} {next : α → Reading β} (h : FailsTamely r)
    (hnext : ∀ a, FailsTamely (next a)) : FailsTamely (r >>= next) := by
  cases r with
  | ok a => exact hnext a
  | error cause => exact .error (h cause rfl)

theorem map {r : Reading α} (h : FailsTamely r) (f : α → β) : FailsTamely (r.map f) := by
  cases r with
  | ok a => exact .ok _
  | error cause => exact .error (h cause rfl)

end FailsTamely

open FailsTamely

theorem expectBytes_tame (word bs : Bytes) : FailsTamely (expectBytes word bs) := by
  induction word generalizing bs with
  | nil => exact .ok _
  | cons w ws ih =>
      cases bs with
      | nil => exact truncated
      | cons b bs =>
          rw [expectBytes]
          split
          · exact ih bs
          · exact malformed

theorem expectEnd_tame (bs : Bytes) : FailsTamely (expectEnd bs) := by
  unfold expectEnd
  split
  · exact .ok _
  · exact malformed

/-! ## Strings -/

theorem readUnit_tame (bs : Bytes) : FailsTamely (readUnit bs) := by
  unfold readUnit
  split
  · split
    · exact .ok _
    · exact malformed
  · exact truncated

theorem readTrailing_tame (lead : Nat) (bs : Bytes) : FailsTamely (readTrailing lead bs) := by
  unfold readTrailing
  refine .bind (expectBytes_tame _ _) fun bs => .bind (expectBytes_tame _ _) fun bs =>
    .bind (readUnit_tame _) fun (trail, bs) => ?_
  dsimp only
  split
  · exact .ok _
  · exact malformed

theorem readEscape_tame (bs : Bytes) : FailsTamely (readEscape bs) := by
  unfold readEscape
  split
  · exact truncated
  split
  · exact .ok _
  split
  · refine .bind (readUnit_tame _) fun (n, rest) => ?_
    dsimp only
    split
    · exact malformed
    split
    · exact readTrailing_tame _ _
    · exact .ok _
  · exact malformed

theorem readPieces_tame (pieces : Nat) (bs : Bytes) : FailsTamely (readPieces pieces bs) := by
  induction pieces generalizing bs with
  | zero => cases bs <;> exact truncated
  | succ pieces ih =>
      cases bs with
      | nil => exact truncated
      | cons b rest =>
          rw [readPieces]
          split
          · exact .ok _
          split
          · refine .bind (readEscape_tame _) fun _ => .bind (ih _) fun _ => .ok _
          split
          · exact malformed
          · exact .bind (ih _) fun _ => .ok _

theorem readString_tame (bs : Bytes) : FailsTamely (readString bs) := by
  unfold readString
  refine .bind (readPieces_tame _ _) fun (cs, rest) => ?_
  dsimp only
  split
  · exact .ok _
  · exact malformed

theorem skipEscape_tame (bs : Bytes) : FailsTamely (skipEscape bs) := by
  unfold skipEscape
  split
  · exact truncated
  split
  · exact .ok _
  split
  · exact (readUnit_tame _).map _
  · exact malformed

theorem skipPieces_tame (pieces : Nat) (bs : Bytes) : FailsTamely (skipPieces pieces bs) := by
  induction pieces generalizing bs with
  | zero => cases bs <;> exact truncated
  | succ pieces ih =>
      cases bs with
      | nil => exact truncated
      | cons b rest =>
          rw [skipPieces]
          split
          · exact .ok _
          split
          · exact .bind (skipEscape_tame _) fun _ => ih _
          split
          · exact malformed
          · exact ih _

/-! ## Numbers -/

section Numerals

variable {atEnd : DecodeError} (hend : Tame atEnd.text)

include hend

theorem readSomeDigits_tame (bs : Bytes) : FailsTamely (readSomeDigits atEnd bs) := by
  unfold readSomeDigits
  split
  · exact .error hend
  split
  · exact .ok _
  · exact malformed

theorem readWhole_tame (bs : Bytes) : FailsTamely (readWhole atEnd bs) := by
  unfold readWhole
  refine .bind (readSomeDigits_tame hend _) fun (ds, rest) => ?_
  dsimp only
  split
  · exact malformed
  · exact .ok _

theorem readPlaces_tame (bs : Bytes) : FailsTamely (readPlaces atEnd bs) := by
  unfold readPlaces
  split
  · split
    · exact .bind (readSomeDigits_tame hend _) fun _ => .ok _
    · exact .ok _
  · exact .ok _

theorem readExponent_tame (bs : Bytes) : FailsTamely (readExponent atEnd bs) := by
  unfold readExponent
  split
  · split
    · exact .bind (readSomeDigits_tame hend _) fun _ => .ok _
    · exact .ok _
  · exact .ok _

theorem readNumeral_tame (bs : Bytes) : FailsTamely (readNumeral atEnd bs) := by
  have hunsigned : ∀ negative bs, FailsTamely (readUnsigned atEnd negative bs) := fun _ _ =>
    .bind (readWhole_tame hend _) fun _ => .bind (readPlaces_tame hend _) fun _ =>
      .bind (readExponent_tame hend _) fun _ => .ok _
  unfold readNumeral
  split
  · split
    · exact hunsigned _ _
    · exact hunsigned _ _
  · exact hunsigned _ _

end Numerals

theorem readNumber_tame (bs : Bytes) : FailsTamely (readNumber bs) := by
  unfold readNumber
  refine .bind (readNumeral_tame (.of_all (by decide)) _) fun (n, rest) => ?_
  dsimp only
  split
  · exact .ok _
  · exact malformed

/-! ## Values that are passed over -/

theorem skipColon_tame (bs : Bytes) : FailsTamely (skipColon bs) := expectBytes_tame _ _

theorem skipRound_tame {close : UInt8} {part others : Bytes → Reading Bytes}
    (hpart : ∀ bs, FailsTamely (part bs)) (hothers : ∀ bs, FailsTamely (others bs))
    (isFirst : Bool) (bs : Bytes) : FailsTamely (skipRound close part others isFirst bs) := by
  have hround : ∀ bs, FailsTamely (part bs >>= others) := fun bs =>
    .bind (hpart bs) fun mid => hothers mid
  unfold skipRound
  split
  · exact truncated
  split
  · exact .ok _
  split
  · exact hround _
  split
  · exact hround _
  · exact malformed

/-- What passes over a value, the rest of a sequence, the rest of an object or a member. -/
structure SkipsTamely (steps : Nat) : Prop where
  value : ∀ bs, FailsTamely (skipValue steps bs)
  items : ∀ isFirst bs, FailsTamely (skipItems steps isFirst bs)
  members : ∀ isFirst bs, FailsTamely (skipMembers steps isFirst bs)
  member : ∀ bs, FailsTamely (skipMember steps bs)

theorem skipsTamely (steps : Nat) : SkipsTamely steps := by
  induction steps with
  | zero =>
      constructor <;> intros
      · rw [skipValue]; exact truncated
      · rw [skipItems]; exact truncated
      · rw [skipMembers]; exact truncated
      · rw [skipMember]; exact truncated
  | succ steps ih =>
      constructor
      · intro bs
        rw [skipValue]
        split
        · exact truncated
        iterate 3
          split
          · exact expectBytes_tame _ _
        split
        · exact skipPieces_tame _ _
        split
        · exact ih.items _ _
        split
        · exact ih.members _ _
        split
        · exact (readNumeral_tame (.of_all (by decide)) _).map _
        · exact malformed
      · intro isFirst bs
        rw [skipItems_succ]
        exact skipRound_tame ih.value (ih.items false) isFirst bs
      · intro isFirst bs
        rw [skipMembers_succ]
        exact skipRound_tame ih.member (ih.members false) isFirst bs
      · intro bs
        rw [skipMember]
        exact .bind (expectBytes_tame _ _) fun _ => .bind (skipPieces_tame _ _) fun _ =>
          .bind (skipColon_tame _) fun _ => ih.value _

/-! ## Values that are read -/

theorem wrongType_tame {expected : String} (h : Tame expected) (bs : Bytes) :
    FailsTamely (wrongType expected bs : Reading α) := by
  have hfailure : ∀ found, FailsTamely
      (.error (.mismatch (.wrongType found expected)) : Reading α) := fun _ =>
    .error (tame_wrongType h)
  unfold wrongType
  dsimp only
  split
  · exact truncated
  iterate 3
    split
    · exact .bind (expectBytes_tame _ _) fun _ => hfailure _
  split
  · exact .bind (readString_tame _) fun _ => hfailure _
  iterate 2
    split
    · exact hfailure _
  split
  · exact .bind (readNumber_tame _) fun _ => hfailure _
  · exact malformed

theorem readText_tame {expected : String} (h : Tame expected) (bs : Bytes) :
    FailsTamely (readText expected bs) := by
  unfold readText
  split
  · exact truncated
  split
  · exact readString_tame _
  · exact wrongType_tame h _

theorem readDouble_tame (bs : Bytes) : FailsTamely (readDouble bs) := by
  unfold readDouble
  split
  · exact truncated
  split
  · exact .bind (readNumber_tame _) fun _ => .ok _
  · exact wrongType_tame (.of_all (by decide)) _

theorem readNull_tame (bs : Bytes) : FailsTamely (readNull bs) := by
  unfold readNull
  split
  · exact truncated
  split
  · exact expectBytes_tame _ _
  · exact wrongType_tame (.of_all (by decide)) _

theorem readName_tame (bs : Bytes) : FailsTamely (readName bs) := by
  unfold readName
  split
  · exact truncated
  split
  · exact readString_tame _
  split
  · exact .bind (readText_tame (.of_all (by decide)) _) fun _ => .bind (skipColon_tame _) fun _ =>
      .bind (readNull_tame _) fun _ => .bind (expectBytes_tame _ _) fun _ => .ok _
  · exact malformed

/-! ## Sequences -/

theorem nextItem_tame (isFirst : Bool) (bs : Bytes) : FailsTamely (nextItem isFirst bs) := by
  unfold nextItem
  split
  · exact truncated
  split
  · exact .ok _
  split
  · exact .ok _
  split
  · split
    · exact truncated
    split
    · exact malformed
    · exact .ok _
  · exact malformed

theorem readList_tame {read : Bytes → Reading (α × Bytes)} (h : ∀ bs, FailsTamely (read bs))
    (bs : Bytes) : FailsTamely (readList read bs) := by
  have hitems : ∀ steps isFirst bs, FailsTamely (readListItems read steps isFirst bs) := by
    intro steps
    induction steps with
    | zero => exact fun _ _ => truncated
    | succ steps ih =>
        intro isFirst bs
        rw [readListItems]
        refine .bind (nextItem_tame _ _) fun next => ?_
        cases next with
        | none => exact .ok _
        | some bs => exact .bind (h bs) fun _ => .bind (ih _ _) fun _ => .ok _
  unfold readList
  split
  · exact truncated
  split
  · exact .bind (hitems _ _ _) fun _ => .bind (expectBytes_tame _ _) fun _ => .ok _
  · exact wrongType_tame (.of_all (by decide)) _

/-! ## Records -/

namespace Format

/-- The names in a format have no controls, and its fields are read without leaving any. -/
structure IsTame (f : Format δ α) : Prop where
  name : Tame f.name
  fields : ∀ field ∈ f.fields, Tame field.name ∧ ∀ draft bs, FailsTamely (field.read draft bs)

variable {f : Format δ α}

theorem IsTame.expected (h : f.IsTame) : Tame f.expected := .append (.of_all (by decide)) h.name

theorem IsTame.readMember (h : f.IsTame) (key : String) (draft : δ) (bs : Bytes) :
    FailsTamely (f.readMember key draft bs) := by
  unfold Format.readMember
  split
  · next field hfind =>
    obtain ⟨hname, hread⟩ := h.fields field (List.mem_of_find?_eq_some hfind)
    split
    · -- The key is the name of a field, hence not just any text.
      have hkey := List.find?_some hfind
      rw [← beq_iff_eq.mp hkey]
      exact .error (tame_duplicateField hname)
    · exact .bind (skipColon_tame _) fun _ => hread _ _
  · exact .bind (skipColon_tame _) fun _ => .bind ((skipsTamely _).value _) fun _ => .ok _

theorem IsTame.readMembers (h : f.IsTame) (steps : Nat) (isFirst : Bool) (draft : δ) (bs : Bytes) :
    FailsTamely (f.readMembers steps isFirst draft bs) := by
  induction steps generalizing isFirst draft bs with
  | zero => exact truncated
  | succ steps ih =>
      rw [Format.readMembers]
      split
      · exact truncated
      split
      · exact .ok _
      split
      · exact .bind (expectBytes_tame _ _) fun _ => .bind (readString_tame _) fun _ =>
          .bind (h.readMember _ _ _) fun _ => ih _ _ _
      · exact malformed

theorem IsTame.readPositions (h : f.IsTame) {fields : List (Field δ)}
    (hfields : ∀ field ∈ fields, field ∈ f.fields) (position : Nat) (draft : δ) (bs : Bytes) :
    FailsTamely (f.readPositions fields position draft bs) := by
  induction fields generalizing position draft bs with
  | nil => exact .ok _
  | cons field fields ih =>
      obtain ⟨hfield, hrest⟩ := List.forall_mem_cons.mp hfields
      rw [Format.readPositions]
      refine .bind (nextItem_tame _ _) fun next => ?_
      cases next with
      | none =>
          dsimp only
          split
          · refine .error (tame_tooShort ?_)
            exact .append (.append (.append h.expected (.of_all (by decide))) (tame_nat _))
              (.of_all (by decide))
          · exact ih hrest _ _ _
      | some bs => exact .bind ((h.fields field hfield).2 _ _) fun _ => ih hrest _ _ _

/-- What is said to be missing is a field of the format. -/
theorem IsTame.complete (h : f.IsTame) (draft : δ) : FailsTamely (f.complete draft) := by
  unfold Format.complete
  split
  · next field hfind =>
    exact .error (tame_missingField (h.fields field (List.mem_of_find?_eq_some hfind)).1)
  · exact .ok _

theorem IsTame.read (h : f.IsTame) (bs : Bytes) : FailsTamely (f.read bs) := by
  unfold Format.read
  split
  · exact truncated
  split
  · exact .bind (h.readMembers _ _ _ _) fun _ => .bind (h.complete _) fun _ => .ok _
  split
  · exact .bind (h.readPositions (fun _ hfield => hfield) _ _ _) fun _ =>
      .bind (expectBytes_tame _ _) fun _ => .ok _
  · exact wrongType_tame h.expected _

/-- No message about a whole text has a control in it. -/
theorem IsTame.ofBytes (h : f.IsTame) (bs : Bytes) : FailsTamely (f.ofBytes bs) :=
  .bind (h.read bs) fun _ => .bind (expectEnd_tame _) fun _ => .ok _

end Format
end LoadMonitor.Json
