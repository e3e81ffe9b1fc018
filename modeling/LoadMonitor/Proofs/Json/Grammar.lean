import LoadMonitor.Json.Tree
import LoadMonitor.Proofs.Json.Scanning

/-!
# The grammar of JSON

Which bytes stand for which tree, as a relation without bounds on steps: `Spells` says that a
piece of a text is at the beginning of the given bytes, and what is behind it. Reading a tree
finds out exactly this, and what is spelled can also be passed over.
-/

namespace LoadMonitor.Json

/-- A piece of a text. -/
inductive Part where
  | value (tree : Tree)
  /-- What is left of a sequence, behind its bracket or behind one of its elements. -/
  | items (isFirst : Bool) (items : List Tree)
  | member (key : String) (tree : Tree)
  /-- What is left of an object, behind its brace or behind one of its members. -/
  | members (isFirst : Bool) (members : List (String × Tree))

/-- The bytes begin with the text of a piece, and go on with the rest. -/
inductive Spells : Part → Bytes → Bytes → Prop
  | null {bs rest : Bytes} (hhead : skipBlanks bs = byte 'n' :: (nullRest ++ rest)) :
      Spells (.value .null) bs rest
  | yes {bs rest : Bytes} (hhead : skipBlanks bs = byte 't' :: (trueRest ++ rest)) :
      Spells (.value (.bool true)) bs rest
  | no {bs rest : Bytes} (hhead : skipBlanks bs = byte 'f' :: (falseRest ++ rest)) :
      Spells (.value (.bool false)) bs rest
  | number {bs rest : Bytes} {n : Numeral}
      (hread : readNumeral .truncated (skipBlanks bs) = .ok (n, rest)) (hreach : n.value.isSome) :
      Spells (.value (.number n)) bs rest
  | string {bs more rest : Bytes} {s : String} (hhead : skipBlanks bs = byte '"' :: more)
      (hread : readString more = .ok (s, rest)) : Spells (.value (.string s)) bs rest
  | array {bs more rest : Bytes} {items : List Tree} (hhead : skipBlanks bs = byte '[' :: more)
      (hitems : Spells (.items true items) more rest) : Spells (.value (.array items)) bs rest
  | object {bs more rest : Bytes} {members : List (String × Tree)}
      (hhead : skipBlanks bs = byte '\x7b' :: more)
      (hmembers : Spells (.members true members) more rest) :
      Spells (.value (.object members)) bs rest
  | itemsEnd {isFirst : Bool} {bs rest : Bytes} (hhead : skipBlanks bs = byte ']' :: rest) :
      Spells (.items isFirst []) bs rest
  | itemsFirst {bs mid rest : Bytes} {item : Tree} {items : List Tree}
      (hitem : Spells (.value item) bs mid) (hitems : Spells (.items false items) mid rest) :
      Spells (.items true (item :: items)) bs rest
  | itemsNext {bs more mid rest : Bytes} {item : Tree} {items : List Tree}
      (hhead : skipBlanks bs = byte ',' :: more) (hitem : Spells (.value item) more mid)
      (hitems : Spells (.items false items) mid rest) :
      Spells (.items false (item :: items)) bs rest
  | member {bs more mid behind rest : Bytes} {key : String} {tree : Tree}
      (hhead : skipBlanks bs = byte '"' :: more) (hkey : readString more = .ok (key, mid))
      (hcolon : skipBlanks mid = byte ':' :: behind) (htree : Spells (.value tree) behind rest) :
      Spells (.member key tree) bs rest
  | membersEnd {isFirst : Bool} {bs rest : Bytes} (hhead : skipBlanks bs = byte '\x7d' :: rest) :
      Spells (.members isFirst []) bs rest
  | membersFirst {bs mid rest : Bytes} {key : String} {tree : Tree}
      {members : List (String × Tree)} (hmember : Spells (.member key tree) bs mid)
      (hmembers : Spells (.members false members) mid rest) :
      Spells (.members true ((key, tree) :: members)) bs rest
  | membersNext {bs more mid rest : Bytes} {key : String} {tree : Tree}
      {members : List (String × Tree)} (hhead : skipBlanks bs = byte ',' :: more)
      (hmember : Spells (.member key tree) more mid)
      (hmembers : Spells (.members false members) mid rest) :
      Spells (.members false ((key, tree) :: members)) bs rest

/-! ## What values begin with -/

theorem isDigit_head {atEnd : DecodeError} {bs rest : Bytes} {n : Numeral}
    (h : readNumeral atEnd bs = .ok (n, rest)) :
    ∃ b more, bs = b :: more ∧ (b = byte '-' || isDigit b) = true := by
  cases bs with
  | nil => cases h
  | cons b bs =>
      refine ⟨b, bs, rfl, ?_⟩
      rw [readNumeral] at h
      split at h
      next hminus => simp [hminus]
      next =>
        obtain ⟨⟨whole, mid⟩, hwhole, -⟩ := Reading.bind_eq_ok.mp h
        obtain ⟨⟨ds, mid'⟩, hdigits, -⟩ := Reading.bind_eq_ok.mp hwhole
        obtain ⟨⟨b', more, heq, hdigit⟩, -⟩ := readSomeDigits_eq_ok.mp hdigits
        cases heq
        simp [hdigit]

/-- What begins a numeral begins nothing else. -/
theorem numeral_head_ne {b : UInt8} (h : (b = byte '-' || isDigit b) = true) {c : Char}
    (hc : c ∈ ['n', 't', 'f', '"', '[', ']', '\x7b', '\x7d', ',', ':']) : b ≠ byte c := by
  rintro rfl
  simp only [List.mem_cons, List.not_mem_nil, or_false] at hc
  obtain rfl | rfl | rfl | rfl | rfl | rfl | rfl | rfl | rfl | rfl := hc
  all_goals exact absurd h (by decide)

theorem Spells.value_head {tree : Tree} {bs rest : Bytes} (h : Spells (.value tree) bs rest) :
    ∃ b more, skipBlanks bs = b :: more ∧ b ≠ byte ']' ∧ b ≠ byte '\x7d' := by
  cases h with
  | number hread _ =>
      obtain ⟨b, more, hbs, hb⟩ := isDigit_head hread
      exact ⟨b, more, hbs, numeral_head_ne hb (by decide), numeral_head_ne hb (by decide)⟩
  | null hhead => exact ⟨_, _, hhead, by decide, by decide⟩
  | yes hhead => exact ⟨_, _, hhead, by decide, by decide⟩
  | no hhead => exact ⟨_, _, hhead, by decide, by decide⟩
  | string hhead _ => exact ⟨_, _, hhead, by decide, by decide⟩
  | array hhead _ => exact ⟨_, _, hhead, by decide, by decide⟩
  | object hhead _ => exact ⟨_, _, hhead, by decide, by decide⟩

theorem Spells.member_head {key : String} {tree : Tree} {bs rest : Bytes}
    (h : Spells (.member key tree) bs rest) : ∃ more, skipBlanks bs = byte '"' :: more := by
  cases h with
  | member hhead _ _ _ => exact ⟨_, hhead⟩

/-! ## Lengths -/

/-- A piece that is not only a closing bracket is shorter than what it is read from. -/
theorem Spells.length {p : Part} {bs rest : Bytes} (h : Spells p bs rest) :
    rest.length < bs.length := by
  induction h with
  | null hhead | yes hhead | no hhead =>
      have hmore := length_of_skipBlanks hhead
      rw [List.length_append] at hmore
      omega
  | number hread _ =>
      have hrest := readNumeral_length hread
      exact Nat.lt_of_lt_of_le hrest (skipBlanks_length _)
  | string hhead hread => exact (readString_length hread).trans (length_of_skipBlanks hhead)
  | array hhead _ ih | object hhead _ ih => exact ih.trans (length_of_skipBlanks hhead)
  | itemsEnd hhead | membersEnd hhead => exact length_of_skipBlanks hhead
  | itemsFirst _ _ ihitem ihitems | membersFirst _ _ ihitem ihitems => exact ihitems.trans ihitem
  | itemsNext hhead _ _ ihitem ihitems | membersNext hhead _ _ ihitem ihitems =>
      exact ihitems.trans (ihitem.trans (length_of_skipBlanks hhead))
  | member hhead hkey hcolon _ ih =>
      calc _
        _ < _ := ih
        _ < _ := length_of_skipBlanks hcolon
        _ < _ := readString_length hkey
        _ < _ := length_of_skipBlanks hhead

/-! ## Reading and passing over -/

@[simp] theorem readTree_skipBlanks (steps : Nat) (bs : Bytes) :
    readTree steps (skipBlanks bs) = readTree steps bs := by
  cases steps <;> simp [readTree]

@[simp] theorem readMember_skipBlanks (steps : Nat) (bs : Bytes) :
    readMember steps (skipBlanks bs) = readMember steps bs := by
  cases steps <;> simp [readMember]

@[simp] theorem skipValue_skipBlanks (steps : Nat) (bs : Bytes) :
    skipValue steps (skipBlanks bs) = skipValue steps bs := by
  cases steps <;> simp [skipValue]

@[simp] theorem skipMember_skipBlanks (steps : Nat) (bs : Bytes) :
    skipMember steps (skipBlanks bs) = skipMember steps bs := by
  cases steps <;> simp [skipMember]

namespace Part

/-- A piece is read in the given number of steps. -/
def IsRead (steps : Nat) (bs rest : Bytes) : Part → Prop
  | .value tree => readTree steps bs = .ok (tree, rest)
  | .items isFirst ts => readItems steps isFirst bs = .ok (ts, rest)
  | .member key tree => readMember steps bs = .ok ((key, tree), rest)
  | .members isFirst ms => readMembers steps isFirst bs = .ok (ms, rest)

/-- A piece is passed over in the given number of steps. -/
def IsSkipped (steps : Nat) (bs rest : Bytes) : Part → Prop
  | .value _ => skipValue steps bs = .ok rest
  | .items isFirst _ => skipItems steps isFirst bs = .ok rest
  | .member _ _ => skipMember steps bs = .ok rest
  | .members isFirst _ => skipMembers steps isFirst bs = .ok rest

end Part

/-- A piece can be read and can be passed over in the given number of steps. -/
structure Part.Passes (steps : Nat) (bs rest : Bytes) (p : Part) : Prop where
  read : p.IsRead steps bs rest
  skip : p.IsSkipped steps bs rest

namespace Part.Passes

variable {steps : Nat} {bs more mid behind rest : Bytes} {tree : Tree} {items : List Tree}
  {key : String} {members : List (String × Tree)}

theorem number {n : Numeral} (hread : readNumeral .truncated (skipBlanks bs) = .ok (n, rest))
    (hreach : n.value.isSome) : Passes (steps + 1) bs rest (.value (.number n)) := by
  obtain ⟨b, more, hhead, hb⟩ := isDigit_head hread
  have hne := fun c => @numeral_head_ne b hb c
  rw [hhead] at hread
  have hskip := skipNumeral_of_readNumeral hread
  constructor
  case read => simp [IsRead, readTree, hhead, hb, hne, readTreeNumeral, hread, hreach]
  case skip => simp [IsSkipped, skipValue, hhead, hb, hne, hskip]

theorem string {s : String} (hhead : skipBlanks bs = byte '"' :: more)
    (hread : readString more = .ok (s, rest)) :
    Passes (steps + 1) bs rest (.value (.string s)) where
  read := by simp +decide [IsRead, readTree, hhead, hread]
  skip := by simp +decide [IsSkipped, skipValue, hhead, skipString_of_readString hread]

theorem array (hhead : skipBlanks bs = byte '[' :: more)
    (h : Passes steps more rest (.items true items)) :
    Passes (steps + 1) bs rest (.value (.array items)) := by
  obtain ⟨hread, hskip⟩ := h
  simp only [IsRead, IsSkipped] at hread hskip
  constructor
  case read => simp +decide [IsRead, readTree, hhead, hread]
  case skip => simp +decide [IsSkipped, skipValue, hhead, hskip]

theorem object (hhead : skipBlanks bs = byte '\x7b' :: more)
    (h : Passes steps more rest (.members true members)) :
    Passes (steps + 1) bs rest (.value (.object members)) := by
  obtain ⟨hread, hskip⟩ := h
  simp only [IsRead, IsSkipped] at hread hskip
  constructor
  case read => simp +decide [IsRead, readTree, hhead, hread]
  case skip => simp +decide [IsSkipped, skipValue, hhead, hskip]

/-- No value begins with a bracket that closes, so a sequence with an element does not end here. -/
theorem itemsFirst {b : UInt8} (hhead : skipBlanks bs = b :: more) (hb : b ≠ byte ']')
    (hitem : Passes steps bs mid (.value tree))
    (hitems : Passes steps mid rest (.items false items)) :
    Passes (steps + 1) bs rest (.items true (tree :: items)) := by
  obtain ⟨hread, hskip⟩ := hitem
  obtain ⟨hreads, hskips⟩ := hitems
  simp only [IsRead, IsSkipped] at hread hskip hreads hskips
  rw [← readTree_skipBlanks, hhead] at hread
  rw [← skipValue_skipBlanks, hhead] at hskip
  constructor
  case read =>
    rw [IsRead, readItems]
    simp [hhead, hb, hread, hreads]
  case skip =>
    rw [IsSkipped, skipItems]
    simp [hhead, hb, hskip, hskips]

theorem itemsNext (hhead : skipBlanks bs = byte ',' :: more)
    (hitem : Passes steps more mid (.value tree))
    (hitems : Passes steps mid rest (.items false items)) :
    Passes (steps + 1) bs rest (.items false (tree :: items)) := by
  obtain ⟨hread, hskip⟩ := hitem
  obtain ⟨hreads, hskips⟩ := hitems
  simp only [IsRead, IsSkipped] at hread hskip hreads hskips
  constructor
  case read =>
    rw [IsRead, readItems]
    simp +decide [hhead, hread, hreads]
  case skip =>
    rw [IsSkipped, skipItems]
    simp +decide [hhead, hskip, hskips]

theorem member (hhead : skipBlanks bs = byte '"' :: more)
    (hkey : readString more = .ok (key, mid)) (hcolon : skipBlanks mid = byte ':' :: behind)
    (htree : Passes steps behind rest (.value tree)) :
    Passes (steps + 1) bs rest (.member key tree) := by
  obtain ⟨hread, hskip⟩ := htree
  simp only [IsRead, IsSkipped] at hread hskip
  constructor
  case read => simp [IsRead, readMember, hhead, hkey, skipColon, hcolon, expectBytes, hread]
  case skip =>
    simp [IsSkipped, skipMember, hhead, skipString_of_readString hkey, skipColon, hcolon,
      expectBytes, hskip]

theorem membersFirst (hhead : skipBlanks bs = byte '"' :: more)
    (hmember : Passes steps bs mid (.member key tree))
    (hmembers : Passes steps mid rest (.members false members)) :
    Passes (steps + 1) bs rest (.members true ((key, tree) :: members)) := by
  obtain ⟨hread, hskip⟩ := hmember
  obtain ⟨hreads, hskips⟩ := hmembers
  simp only [IsRead, IsSkipped] at hread hskip hreads hskips
  rw [← readMember_skipBlanks, hhead] at hread
  rw [← skipMember_skipBlanks, hhead] at hskip
  constructor
  case read =>
    rw [IsRead, readMembers]
    simp +decide [hhead, hread, hreads]
  case skip =>
    rw [IsSkipped, skipMembers]
    simp +decide [hhead, hskip, hskips]

theorem membersNext (hhead : skipBlanks bs = byte ',' :: more)
    (hmember : Passes steps more mid (.member key tree))
    (hmembers : Passes steps mid rest (.members false members)) :
    Passes (steps + 1) bs rest (.members false ((key, tree) :: members)) := by
  obtain ⟨hread, hskip⟩ := hmember
  obtain ⟨hreads, hskips⟩ := hmembers
  simp only [IsRead, IsSkipped] at hread hskip hreads hskips
  constructor
  case read =>
    rw [IsRead, readMembers]
    simp +decide [hhead, hread, hreads]
  case skip =>
    rw [IsSkipped, skipMembers]
    simp +decide [hhead, hskip, hskips]

end Part.Passes

/-- Two steps for each byte of a piece are enough: every byte of it that is not part of one of its
own pieces pays for the step into a piece and for the step behind it. -/
theorem Spells.passes {p : Part} {bs rest : Bytes} (h : Spells p bs rest) (steps : Nat)
    (hsteps : 2 * bs.length ≤ steps + 1 + 2 * rest.length) : p.Passes (steps + 1) bs rest := by
  induction h generalizing steps with
  | null hhead | yes hhead | no hhead =>
      constructor <;>
        simp +decide [Part.IsRead, Part.IsSkipped, readTree, skipValue, hhead,
          expectBytes_eq_ok.mpr rfl]
  | number hread hreach => exact .number hread hreach
  | string hhead hread => exact .string hhead hread
  | itemsEnd hhead | membersEnd hhead =>
      constructor <;>
        simp +decide [Part.IsRead, Part.IsSkipped, readItems, skipItems, readMembers, skipMembers,
          hhead]
  | array hhead hitems ih =>
      have hmore := length_of_skipBlanks hhead
      have hrest := hitems.length
      obtain ⟨steps, rfl⟩ : ∃ k, steps = k + 1 := ⟨steps - 1, by omega⟩
      exact .array hhead (ih steps (by omega))
  | object hhead hmembers ih =>
      have hmore := length_of_skipBlanks hhead
      have hrest := hmembers.length
      obtain ⟨steps, rfl⟩ : ∃ k, steps = k + 1 := ⟨steps - 1, by omega⟩
      exact .object hhead (ih steps (by omega))
  | itemsFirst hitem hitems ihitem ihitems =>
      have hmid := hitem.length
      have hrest := hitems.length
      obtain ⟨steps, rfl⟩ : ∃ k, steps = k + 1 := ⟨steps - 1, by omega⟩
      obtain ⟨b, more, hhead, hb, -⟩ := hitem.value_head
      exact .itemsFirst hhead hb (ihitem steps (by omega)) (ihitems steps (by omega))
  | itemsNext hhead hitem hitems ihitem ihitems =>
      have hmore := length_of_skipBlanks hhead
      have hmid := hitem.length
      have hrest := hitems.length
      obtain ⟨steps, rfl⟩ : ∃ k, steps = k + 1 := ⟨steps - 1, by omega⟩
      exact .itemsNext hhead (ihitem steps (by omega)) (ihitems steps (by omega))
  | member hhead hkey hcolon htree ih =>
      have hmore := length_of_skipBlanks hhead
      have hmid := readString_length hkey
      have hbehind := length_of_skipBlanks hcolon
      have hrest := htree.length
      obtain ⟨steps, rfl⟩ : ∃ k, steps = k + 1 := ⟨steps - 1, by omega⟩
      exact .member hhead hkey hcolon (ih steps (by omega))
  | membersFirst hmember hmembers ihmember ihmembers =>
      have hmid := hmember.length
      have hrest := hmembers.length
      obtain ⟨steps, rfl⟩ : ∃ k, steps = k + 1 := ⟨steps - 1, by omega⟩
      obtain ⟨more, hhead⟩ := hmember.member_head
      exact .membersFirst hhead (ihmember steps (by omega)) (ihmembers steps (by omega))
  | membersNext hhead hmember hmembers ihmember ihmembers =>
      have hmore := length_of_skipBlanks hhead
      have hmid := hmember.length
      have hrest := hmembers.length
      obtain ⟨steps, rfl⟩ : ∃ k, steps = k + 1 := ⟨steps - 1, by omega⟩
      exact .membersNext hhead (ihmember steps (by omega)) (ihmembers steps (by omega))

theorem Spells.readTree_eq {tree : Tree} {bs rest : Bytes} (h : Spells (.value tree) bs rest) :
    readTree (stepsFor bs) bs = .ok (tree, rest) :=
  (h.passes (2 * bs.length + 1) (by omega)).read

theorem Spells.skipValue_eq {tree : Tree} {bs rest : Bytes} (h : Spells (.value tree) bs rest) :
    skipValue (stepsFor bs) bs = .ok rest :=
  (h.passes (2 * bs.length + 1) (by omega)).skip

/-! ## Whole texts -/

section Soundness

variable {steps : Nat}
  (ih : ∀ (p : Part) (bs rest : Bytes), p.IsRead steps bs rest → Spells p bs rest)
include ih

theorem spells_of_readTree {bs rest : Bytes} {tree : Tree}
    (h : readTree (steps + 1) bs = .ok (tree, rest)) : Spells (.value tree) bs rest := by
  rw [readTree] at h
  split at h
  next => cases h
  next b more hhead =>
    -- The first byte tells which kind of value there is.
    split at h
    next hb =>
      subst hb
      obtain ⟨rest', hword, h⟩ := Reading.bind_eq_ok.mp h
      cases h
      exact .null (expectBytes_eq_ok.mp hword ▸ hhead)
    next =>
    split at h
    next hb =>
      subst hb
      obtain ⟨rest', hword, h⟩ := Reading.bind_eq_ok.mp h
      cases h
      exact .yes (expectBytes_eq_ok.mp hword ▸ hhead)
    next =>
    split at h
    next hb =>
      subst hb
      obtain ⟨rest', hword, h⟩ := Reading.bind_eq_ok.mp h
      cases h
      exact .no (expectBytes_eq_ok.mp hword ▸ hhead)
    next =>
    split at h
    next hb =>
      subst hb
      obtain ⟨⟨s, rest'⟩, hread, h⟩ := Reading.bind_eq_ok.mp h
      cases h
      exact .string hhead hread
    next =>
    split at h
    next hb =>
      subst hb
      obtain ⟨⟨items, rest'⟩, hitems, h⟩ := Reading.bind_eq_ok.mp h
      cases h
      exact .array hhead (ih _ _ _ hitems)
    next =>
    split at h
    next hb =>
      subst hb
      obtain ⟨⟨members, rest'⟩, hmembers, h⟩ := Reading.bind_eq_ok.mp h
      cases h
      exact .object hhead (ih _ _ _ hmembers)
    next =>
    split at h
    next =>
      obtain ⟨⟨n, rest'⟩, hread, h⟩ := Reading.bind_eq_ok.mp h
      dsimp only at h
      split at h
      next hreach =>
        cases h
        exact .number (hhead ▸ hread) hreach
      next => cases h
    next => cases h

theorem spells_of_readItems {isFirst : Bool} {bs rest : Bytes} {items : List Tree}
    (h : readItems (steps + 1) isFirst bs = .ok (items, rest)) :
    Spells (.items isFirst items) bs rest := by
  rw [readItems] at h
  split at h
  next => cases h
  next b more hhead =>
    split at h
    next hb =>
      cases h
      exact .itemsEnd (hb ▸ hhead)
    next =>
    split at h
    next hb =>
      obtain ⟨⟨item, mid⟩, hitem, h⟩ := Reading.bind_eq_ok.mp h
      obtain ⟨⟨items, rest'⟩, hitems, h⟩ := Reading.bind_eq_ok.mp h
      cases h
      -- The byte that was looked at is that of the element itself or a comma in front of it.
      cases isFirst with
      | true =>
          rw [if_pos rfl, ← hhead, readTree_skipBlanks] at hitem
          exact .itemsFirst (ih (.value item) _ _ hitem) (ih (.items false items) _ _ hitems)
      | false =>
          rw [Bool.false_or, decide_eq_true_eq] at hb
          exact .itemsNext (hb ▸ hhead) (ih (.value item) _ _ hitem)
            (ih (.items false items) _ _ hitems)
    next => cases h

theorem spells_of_readMember {bs rest : Bytes} {key : String} {tree : Tree}
    (h : readMember (steps + 1) bs = .ok ((key, tree), rest)) :
    Spells (.member key tree) bs rest := by
  rw [readMember] at h
  obtain ⟨more, hhead, h⟩ := Reading.bind_eq_ok.mp h
  obtain ⟨⟨key, mid⟩, hkey, h⟩ := Reading.bind_eq_ok.mp h
  obtain ⟨behind, hcolon, h⟩ := Reading.bind_eq_ok.mp h
  obtain ⟨⟨tree, rest'⟩, htree, h⟩ := Reading.bind_eq_ok.mp h
  cases h
  exact .member (expectBytes_eq_ok.mp hhead) hkey (expectBytes_eq_ok.mp hcolon)
    (ih (.value tree) _ _ htree)

theorem spells_of_readMembers {isFirst : Bool} {bs rest : Bytes} {members : List (String × Tree)}
    (h : readMembers (steps + 1) isFirst bs = .ok (members, rest)) :
    Spells (.members isFirst members) bs rest := by
  rw [readMembers] at h
  split at h
  next => cases h
  next b more hhead =>
    split at h
    next hb =>
      cases h
      exact .membersEnd (hb ▸ hhead)
    next =>
    split at h
    next hb =>
      obtain ⟨⟨⟨key, tree⟩, mid⟩, hmember, h⟩ := Reading.bind_eq_ok.mp h
      obtain ⟨⟨members, rest'⟩, hmembers, h⟩ := Reading.bind_eq_ok.mp h
      cases h
      cases isFirst with
      | true =>
          rw [if_pos rfl, ← hhead, readMember_skipBlanks] at hmember
          exact .membersFirst (ih (.member key tree) _ _ hmember)
            (ih (.members false members) _ _ hmembers)
      | false =>
          rw [Bool.false_or, decide_eq_true_eq] at hb
          exact .membersNext (hb ▸ hhead) (ih (.member key tree) _ _ hmember)
            (ih (.members false members) _ _ hmembers)
    next => cases h

end Soundness

theorem Part.IsRead.spells {steps : Nat} {p : Part} {bs rest : Bytes}
    (h : p.IsRead steps bs rest) : Spells p bs rest := by
  induction steps generalizing p bs rest with
  | zero =>
      cases p with
      | value => cases h
      | items => cases h
      | member => cases h
      | members => cases h
  | succ steps ih =>
      have ih' := fun p bs rest => @ih p bs rest
      cases p with
      | value tree => exact spells_of_readTree ih' h
      | items isFirst items => exact spells_of_readItems ih' h
      | member key tree => exact spells_of_readMember ih' h
      | members isFirst members => exact spells_of_readMembers ih' h

/-- A text has a tree exactly if it spells it, with nothing but blanks behind. -/
theorem Tree.ofBytes_eq_ok {bs : Bytes} {tree : Tree} :
    Tree.ofBytes bs = .ok tree ↔
      ∃ rest, Spells (.value tree) bs rest ∧ skipBlanks rest = [] := by
  unfold Tree.ofBytes
  rw [Reading.bind_eq_ok]
  constructor
  · rintro ⟨⟨tree, rest⟩, hread, h⟩
    obtain ⟨⟨⟩, hend, h⟩ := Reading.bind_eq_ok.mp h
    cases h
    refine ⟨rest, Part.IsRead.spells (p := .value tree) hread, ?_⟩
    simpa [expectEnd] using hend
  · rintro ⟨rest, hspells, hend⟩
    refine ⟨(tree, rest), hspells.readTree_eq, ?_⟩
    simp [expectEnd, hend]

end LoadMonitor.Json
