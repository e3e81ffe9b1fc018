import LoadMonitor.Json.Record
import LoadMonitor.Proofs.Json.Grammar
import LoadMonitor.Proofs.Json.Shape

/-!
# Reading without a tree

A reader that goes through a text as it comes mirrors a view of trees if, on the text of any tree,
it yields what the view shows and stops behind the text, and fails if the view shows nothing.
-/

namespace LoadMonitor.Json

variable {α : Type}

/-- On the text of a tree, reading is the same as looking at the tree. -/
def Mirrors (read : Bytes → Reading (α × Bytes)) (view : Tree → Option α) : Prop :=
  ∀ {tree : Tree} {bs rest : Bytes}, Spells (.value tree) bs rest →
    (read bs).toOption = (view tree).map (·, rest)

/-! ## Single values -/

@[simp] theorem toOption_ok (a : α) : (Except.ok a : Reading α).toOption = some a := rfl

@[simp] theorem toOption_error (e : DecodeError) :
    (Except.error e : Reading α).toOption = none := rfl

@[simp] theorem wrongType_toOption (expected : String) (bs : Bytes) :
    (wrongType expected bs : Reading α).toOption = none := by
  unfold wrongType
  dsimp only
  repeat' split
  all_goals simp [Reading.toOption_bind]

theorem readText_mirrors (expected : String) : Mirrors (readText expected) Tree.text? := by
  intro tree bs rest h
  cases h with
  | string hhead hread => simp [readText, hhead, hread, Tree.text?]
  | number hread _ =>
      obtain ⟨b, more, hhead, hb⟩ := isDigit_head hread
      have hquote := numeral_head_ne hb (c := '"') (by decide)
      simp [readText, hhead, hquote, Tree.text?]
  | null hhead | yes hhead | no hhead => simp +decide [readText, hhead, Tree.text?]
  | array hhead _ | object hhead _ => simp +decide [readText, hhead, Tree.text?]

theorem readDouble_mirrors : Mirrors readDouble Tree.double? := by
  intro tree bs rest h
  cases h with
  | number hread hreach =>
      obtain ⟨b, more, hhead, hb⟩ := isDigit_head hread
      rw [hhead] at hread
      obtain ⟨x, hx⟩ := Option.isSome_iff_exists.mp hreach
      simp [readDouble, hhead, hb, readNumber, hread, hx, Tree.double?]
  | string hhead _ => simp +decide [readDouble, hhead, Tree.double?]
  | null hhead | yes hhead | no hhead => simp +decide [readDouble, hhead, Tree.double?]
  | array hhead _ | object hhead _ => simp +decide [readDouble, hhead, Tree.double?]

theorem readNull_mirrors {tree : Tree} {bs rest : Bytes} (h : Spells (.value tree) bs rest) :
    (readNull bs).toOption = if tree matches .null then some rest else none := by
  cases h with
  | null hhead => simp [readNull, hhead, expectBytes_eq_ok.mpr rfl]
  | number hread _ =>
      obtain ⟨b, more, hhead, hb⟩ := isDigit_head hread
      have hn := numeral_head_ne hb (c := 'n') (by decide)
      simp [readNull, hhead, hn]
  | string hhead _ => simp +decide [readNull, hhead]
  | yes hhead | no hhead => simp +decide [readNull, hhead]
  | array hhead _ | object hhead _ => simp +decide [readNull, hhead]

/-- The end of an object stands where no member is left, and nowhere else. -/
theorem expectBytes_brace {members : List (String × Tree)} {bs rest : Bytes}
    (h : Spells (.members false members) bs rest) :
    (expectBytes [byte '\x7d'] (skipBlanks bs)).toOption =
      if members = [] then some rest else none := by
  cases h with
  | membersEnd hhead => simp [hhead, expectBytes]
  | membersNext hhead _ _ => simp +decide [hhead, expectBytes]

/-- The name that is a key needs a null behind it, and the end of the object. -/
theorem readName_object {bs more text mid behind : Bytes} {key : String}
    (hhead : skipBlanks bs = byte '\x7b' :: more) (hquote : skipBlanks more = byte '"' :: text)
    (hkey : readString text = .ok (key, mid)) (hcolon : skipBlanks mid = byte ':' :: behind) :
    (readName bs).toOption = (readNull behind).toOption.bind fun after =>
      (expectBytes [byte '\x7d'] (skipBlanks after)).toOption.bind fun rest => some (key, rest) := by
  simp +decide [readName, hhead, readText, hquote, hkey, skipColon, hcolon, expectBytes,
    Reading.toOption_bind]

theorem readName_mirrors : Mirrors readName Tree.name? := by
  intro tree bs rest h
  cases h with
  | string hhead hread => simp [readName, hhead, hread, Tree.name?]
  | number hread _ =>
      obtain ⟨b, more, hhead, hb⟩ := isDigit_head hread
      have hne := fun c => @numeral_head_ne b hb c
      simp [readName, hhead, hne, Tree.name?]
  | null hhead | yes hhead | no hhead => simp +decide [readName, hhead, Tree.name?]
  | array hhead _ => simp +decide [readName, hhead, Tree.name?]
  | object hhead hmembers =>
      cases hmembers with
      | membersEnd hbrace =>
          simp +decide [readName, hhead, readText, hbrace, Tree.name?, Reading.toOption_bind]
      -- The name is the key of the only member, which must hold nothing.
      | membersFirst hmember hmembers =>
          cases hmember with
          | member hquote hkey hcolon htree =>
              rw [readName_object hhead hquote hkey hcolon, readNull_mirrors htree]
              cases htree with
              | null _ =>
                  rw [if_pos rfl, Option.bind_some, expectBytes_brace hmembers]
                  cases hmembers <;> rfl
              | _ => rfl

/-! ## Sequences -/

section Items

variable {isFirst : Bool} {bs rest : Bytes}

theorem Spells.value_skipBlanks {tree : Tree} (h : Spells (.value tree) bs rest) :
    Spells (.value tree) (skipBlanks bs) rest := by
  cases h with
  | null hhead => exact .null (by rwa [skipBlanks_skipBlanks])
  | yes hhead => exact .yes (by rwa [skipBlanks_skipBlanks])
  | no hhead => exact .no (by rwa [skipBlanks_skipBlanks])
  | number hread hreach => exact .number (by rwa [skipBlanks_skipBlanks]) hreach
  | string hhead hread => exact .string (by rwa [skipBlanks_skipBlanks]) hread
  | array hhead hitems => exact .array (by rwa [skipBlanks_skipBlanks]) hitems
  | object hhead hmembers => exact .object (by rwa [skipBlanks_skipBlanks]) hmembers

theorem Spells.items_end (h : Spells (.items isFirst []) bs rest) :
    nextItem isFirst bs = .ok none ∧ endItems bs = .ok rest := by
  cases h with
  | itemsEnd hhead => simp [nextItem, endItems, hhead, expectBytes]

/-- Where an element is left, it is the next one, and the sequence does not end. -/
theorem Spells.items_next {item : Tree} {items : List Tree}
    (h : Spells (.items isFirst (item :: items)) bs rest) :
    (∃ next mid, nextItem isFirst bs = .ok (some next) ∧ mid.length < bs.length ∧
      Spells (.value item) next mid ∧ Spells (.items false items) mid rest) ∧
    (endItems bs).toOption = none := by
  cases h with
  | itemsFirst hitem hitems =>
      obtain ⟨b, more, hhead, hb, -⟩ := hitem.value_head
      refine ⟨⟨skipBlanks bs, _, ?_, hitem.length, hitem.value_skipBlanks, hitems⟩, ?_⟩
      · simp [nextItem, hhead, hb]
      · simp [endItems, hhead, expectBytes, hb]
  | itemsNext hhead hitem hitems =>
      obtain ⟨b, more, hitemHead, hb, -⟩ := hitem.value_head
      have hmid := hitem.length.trans (length_of_skipBlanks hhead)
      refine ⟨⟨_, _, ?_, hmid, hitem.value_skipBlanks, hitems⟩, ?_⟩
      · simp +decide [nextItem, hhead, hitemHead, hb]
      · simp +decide [endItems, hhead, expectBytes]

end Items

theorem length_lt_stepsFor (bs : Bytes) : bs.length < stepsFor bs := by
  unfold stepsFor
  omega

/-- The elements of a sequence are read up to its bracket. -/
theorem readListItems_toOption {read : Bytes → Reading (α × Bytes)} {view : Tree → Option α}
    (hread : Mirrors read view) {items : List Tree} {isFirst : Bool} {bs rest : Bytes}
    (h : Spells (.items isFirst items) bs rest) (steps : Nat) (hsteps : bs.length < steps) :
    ∃ bracket, endItems bracket = .ok rest ∧
      (readListItems read steps isFirst bs).toOption = (items.mapM view).map (·, bracket) := by
  induction items generalizing isFirst bs steps with
  | nil =>
      obtain ⟨steps, rfl⟩ : ∃ k, steps = k + 1 := ⟨steps - 1, by omega⟩
      obtain ⟨hnext, hend⟩ := h.items_end
      refine ⟨bs, hend, ?_⟩
      simp [readListItems, hnext]
  | cons item items ih =>
      obtain ⟨steps, rfl⟩ : ∃ k, steps = k + 1 := ⟨steps - 1, by omega⟩
      obtain ⟨⟨next, mid, hnext, hmid, hitem, hitems⟩, -⟩ := h.items_next
      obtain ⟨bracket, hend, hrest⟩ := ih hitems steps (by omega)
      refine ⟨bracket, hend, ?_⟩
      rw [readListItems, hnext, List.mapM_cons]
      simp only [Reading.ok_bind, Reading.toOption_bind, hread hitem]
      cases view item with
      | none => rfl
      | some a =>
          simp only [Option.map_some, Option.bind_some, hrest]
          cases items.mapM view with
          | none => rfl
          | some as => rfl

theorem readList_mirrors {read : Bytes → Reading (α × Bytes)} {view : Tree → Option α}
    (hread : Mirrors read view) : Mirrors (readList read) (Tree.list? view) := by
  intro tree bs rest h
  cases h with
  | @array _ _ _ items hhead hitems =>
      obtain ⟨bracket, hend, hlist⟩ :=
        readListItems_toOption hread hitems _ (length_lt_stepsFor _)
      simp only [readList, hhead, if_true, Reading.toOption_bind, hlist, Tree.list?]
      cases items.mapM view with
      | none => rfl
      | some as => simp [hend]
  | string hhead _ => simp +decide [readList, hhead, Tree.list?]
  | number hread _ =>
      obtain ⟨b, more, hhead, hb⟩ := isDigit_head hread
      have hbracket := numeral_head_ne hb (c := '[') (by decide)
      simp [readList, hhead, hbracket, Tree.list?]
  | null hhead | yes hhead | no hhead => simp +decide [readList, hhead, Tree.list?]
  | object hhead _ => simp +decide [readList, hhead, Tree.list?]

end LoadMonitor.Json
