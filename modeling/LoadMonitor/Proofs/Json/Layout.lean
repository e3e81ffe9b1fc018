import LoadMonitor.Proofs.Json.Streaming
import Mathlib.Data.List.Nodup

/-!
# Records in any order

A record is read member by member into a draft, whatever the order. Fields that keep to parts of the
draft of their own do not notice in which order they are entered, so that entering the members as
they come is the same as looking for each field among them; and an array gives its elements
to the fields in their order.
-/

namespace LoadMonitor.Json

/-! ## Slots -/

/-- The part of a draft that a field is read into: how its value is read, and the view that this
mirrors. -/
structure Slot (δ : Type) where
  name : String
  required : Bool
  Value : Type
  read : Bytes → Reading (Value × Bytes)
  view : Tree → Option Value
  isSet : δ → Bool
  set : Value → δ → δ
  mirrors : Mirrors read view
  isSet_set : ∀ (value : Value) (draft : δ), isSet (set value draft) = true

namespace Slot

variable {δ : Type}

/-- The field that is read into a slot. -/
def field (s : Slot δ) : Field δ where
  name := s.name
  required := s.required
  isSet := s.isSet
  read draft bs := do
    let (value, bs) ← s.read bs
    return (s.set value draft, bs)

/-- The draft with the value that a tree has for the slot. -/
def fill (s : Slot δ) (tree : Tree) (draft : δ) : Option δ := (s.view tree).map (s.set · draft)

/-- Fill the slot, which has to be empty. -/
def enter (s : Slot δ) (tree : Tree) (draft : δ) : Option δ :=
  if s.isSet draft then none else s.fill tree draft

theorem field_read (s : Slot δ) {tree : Tree} {bs rest : Bytes} (h : Spells (.value tree) bs rest)
    (draft : δ) : (s.field.read draft bs).toOption = (s.fill tree draft).map (·, rest) := by
  simp only [field, Reading.toOption_bind, s.mirrors h, fill]
  cases s.view tree with
  | none => rfl
  | some value => rfl

theorem isSet_of_fill {s : Slot δ} {tree : Tree} {draft draft' : δ}
    (h : s.fill tree draft = some draft') : s.isSet draft' = true := by
  obtain ⟨value, -, rfl⟩ := Option.map_eq_some_iff.mp h
  exact s.isSet_set value draft

/-- Two slots with names and parts of the draft of their own. -/
structure Apart (s t : Slot δ) : Prop where
  name_ne : s.name ≠ t.name
  set_set : ∀ v w draft, s.set v (t.set w draft) = t.set w (s.set v draft)
  isSet_left : ∀ w draft, s.isSet (t.set w draft) = s.isSet draft
  isSet_right : ∀ v draft, t.isSet (s.set v draft) = t.isSet draft

namespace Apart

variable {s t : Slot δ}

theorem symm (h : s.Apart t) : t.Apart s :=
  ⟨h.name_ne.symm, fun v w draft => (h.set_set w v draft).symm, h.isSet_right, h.isSet_left⟩

theorem isSet_fill (h : s.Apart t) {tree : Tree} {draft draft' : δ}
    (hfill : s.fill tree draft = some draft') : t.isSet draft' = t.isSet draft := by
  obtain ⟨value, -, rfl⟩ := Option.map_eq_some_iff.mp hfill
  exact h.isSet_right value draft

theorem enter_enter (h : s.Apart t) (a b : Tree) (draft : δ) :
    (s.enter a draft).bind (t.enter b) = (t.enter b draft).bind (s.enter a) := by
  unfold enter fill
  cases hs : s.isSet draft <;> cases ht : t.isSet draft <;> cases ha : s.view a <;>
    cases hb : t.view b <;> simp [hs, ht, h.isSet_left, h.isSet_right, h.set_set]

end Apart

/-! ## Members as they come -/

/-- Enter members into the slots with their names; a member without a slot is passed over. -/
def gather (slots : List (Slot δ)) : List (String × Tree) → δ → Option δ
  | [], draft => some draft
  | (key, tree) :: members, draft =>
    match slots.find? (·.name == key) with
    | some s => (s.enter tree draft).bind (gather slots members)
    | none => gather slots members draft

/-- Fill the slots one after the other with the members that have their names. -/
def settle (members : List (String × Tree)) : List (Slot δ) → δ → Option δ
  | [], draft => some draft
  | s :: slots, draft =>
    match members.lookup s.name with
    | some tree => (s.fill tree draft).bind (settle members slots)
    | none => settle members slots draft

/-- Whether the slots that have to be filled have members with their names. -/
def complete (members : List (String × Tree)) (slots : List (Slot δ)) : Bool :=
  slots.all fun s => !s.required || (members.lookup s.name).isSome

variable {s t : Slot δ} {slots : List (Slot δ)}

theorem gather_head (member : String × Tree) (members : List (String × Tree)) (draft : δ) :
    gather slots (member :: members) draft =
      (gather slots [member] draft).bind (gather slots members) := by
  obtain ⟨key, tree⟩ := member
  rw [gather, gather]
  split
  · rw [Option.bind_assoc]
    rfl
  · rfl

theorem gather_self (tree : Tree) (members : List (String × Tree)) (draft : δ) :
    gather (s :: slots) ((s.name, tree) :: members) draft =
      (s.enter tree draft).bind (gather (s :: slots) members) := by
  simp [gather]

theorem gather_ne {key : String} (h : ∀ t ∈ slots, t.name ≠ key) (tree : Tree)
    (members : List (String × Tree)) (draft : δ) :
    gather slots ((key, tree) :: members) draft = gather slots members draft := by
  have hnone : slots.find? (·.name == key) = none := by
    simpa [List.find?_eq_none] using h
  simp [gather, hnone]

theorem settle_single (members : List (String × Tree)) (draft : δ) :
    settle members [s] draft =
      match members.lookup s.name with
      | some tree => s.fill tree draft
      | none => some draft := by
  rw [settle]
  split
  · exact Option.bind_fun_some _
  · rfl

/-- Whether all slots are filled that have to be depends on the views of their members only. -/
theorem complete_congr {members members' : List (String × Tree)}
    (h : ∀ t ∈ slots, (members.lookup t.name).map t.view = (members'.lookup t.name).map t.view) :
    complete members slots = complete members' slots := by
  rw [Bool.eq_iff_iff]
  simp only [complete, List.all_eq_true]
  refine forall₂_congr fun t ht => ?_
  have hsome := congrArg Option.isSome (h t ht)
  rw [Option.isSome_map, Option.isSome_map] at hsome
  rw [hsome]

/-- What the slots are filled with depends on the views of their members only. -/
theorem settle_congr {members members' : List (String × Tree)}
    (h : ∀ t ∈ slots, (members.lookup t.name).map t.view = (members'.lookup t.name).map t.view)
    (draft : δ) : settle members slots draft = settle members' slots draft := by
  induction slots generalizing draft with
  | nil => rfl
  | cons t slots ih =>
      have ih' := fun draft => ih (fun t ht => h t (List.mem_cons_of_mem _ ht)) draft
      have hview := h t List.mem_cons_self
      rw [settle, settle]
      cases hlookup : members.lookup t.name <;> cases hlookup' : members'.lookup t.name
      case none.none => exact ih' draft
      case some.some =>
        rw [hlookup, hlookup'] at hview
        simp only [fill, Option.some.inj hview, funext ih']
      all_goals
        rw [hlookup, hlookup'] at hview
        cases hview

theorem enter_gather (h : s.Apart t) (tree : Tree) (members : List (String × Tree)) (draft : δ) :
    (t.enter tree draft).bind (gather [s] members) =
      (gather [s] members draft).bind (t.enter tree) := by
  induction members generalizing draft with
  | nil => simp [gather]
  | cons member members ih =>
      obtain ⟨key, value⟩ := member
      by_cases hkey : s.name = key
      · subst hkey
        calc (t.enter tree draft).bind (gather [s] ((s.name, value) :: members))
          _ = ((t.enter tree draft).bind (s.enter value)).bind (gather [s] members) := by
            simp only [funext (gather_self value members), Option.bind_assoc]
          _ = ((s.enter value draft).bind (t.enter tree)).bind (gather [s] members) := by
            rw [h.enter_enter]
          _ = (gather [s] ((s.name, value) :: members) draft).bind (t.enter tree) := by
            simp only [gather_self, Option.bind_assoc, ih]
      · have hne : ∀ t ∈ [s], t.name ≠ key := by simpa using hkey
        simp only [funext (gather_ne hne value members), ih]

/-- One slot can be dealt with before all others. -/
theorem gather_cons (h : ∀ t ∈ slots, s.Apart t) (members : List (String × Tree)) (draft : δ) :
    gather (s :: slots) members draft =
      (gather [s] members draft).bind (gather slots members) := by
  induction members generalizing draft with
  | nil => rfl
  | cons member members ih =>
      obtain ⟨key, tree⟩ := member
      by_cases hkey : s.name = key
      · subst hkey
        have hne : ∀ t ∈ slots, t.name ≠ s.name := fun t ht => (h t ht).name_ne.symm
        simp only [gather_self, funext (gather_ne hne tree members), Option.bind_assoc, funext ih]
      · have hne : ∀ t ∈ [s], t.name ≠ key := by simpa using hkey
        cases hfind : slots.find? (·.name == key) with
        | none =>
            simp [gather, hkey, hfind, ih]
        | some t =>
            -- The member is that of another slot, and may as well be entered after the first slot
            -- is dealt with.
            have ht := h t (List.mem_of_find?_eq_some hfind)
            calc gather (s :: slots) ((key, tree) :: members) draft
              _ = (t.enter tree draft).bind (gather (s :: slots) members) := by
                simp [gather, hkey, hfind]
              _ = ((t.enter tree draft).bind (gather [s] members)).bind (gather slots members) := by
                simp only [funext ih, Option.bind_assoc]
              _ = ((gather [s] members draft).bind (t.enter tree)).bind (gather slots members) := by
                rw [enter_gather ht]
              _ = (gather [s] ((key, tree) :: members) draft).bind
                  (gather slots ((key, tree) :: members)) := by
                rw [gather_ne hne, Option.bind_assoc]
                simp only [gather, hfind]

/-! ## Every slot by itself -/

theorem gather_single_of_isSet (members : List (String × Tree)) {draft : δ}
    (h : s.isSet draft = true) :
    gather [s] members draft = if occurrences s.name members = 0 then some draft else none := by
  induction members with
  | nil => rfl
  | cons member members ih =>
      obtain ⟨key, tree⟩ := member
      by_cases hkey : s.name = key
      · subst hkey
        simp [gather_self, enter, h, occurrences_self]
      · have hne : ∀ t ∈ [s], t.name ≠ key := by simpa using hkey
        rw [gather_ne hne, ih, occurrences_ne hkey]

theorem gather_single (members : List (String × Tree)) {draft : δ} (h : s.isSet draft = false) :
    gather [s] members draft =
      if occurrences s.name members ≤ 1 then settle members [s] draft else none := by
  induction members with
  | nil => rfl
  | cons member members ih =>
      obtain ⟨key, tree⟩ := member
      by_cases hkey : s.name = key
      · subst hkey
        have henter : s.enter tree draft = s.fill tree draft := by simp [enter, h]
        rw [gather_self, henter, settle_single, List.lookup_cons_self, occurrences_self]
        have hone : occurrences s.name members + 1 ≤ 1 ↔ occurrences s.name members = 0 := by
          omega
        simp only [hone]
        cases hfill : s.fill tree draft with
        | none => simp
        | some draft' => exact gather_single_of_isSet members (isSet_of_fill hfill)
      · have hne : ∀ t ∈ [s], t.name ≠ key := by simpa using hkey
        rw [gather_ne hne, ih, occurrences_ne hkey, settle_single, settle_single, lookup_ne hkey]

/-- Into a draft with empty slots, members can be entered as they come if no slot has two of them.
Each slot then has its own member. -/
theorem gather_eq_settle (happart : slots.Pairwise Apart) (members : List (String × Tree))
    {draft : δ} (hblank : ∀ s ∈ slots, s.isSet draft = false) :
    gather slots members draft =
      if ∀ s ∈ slots, occurrences s.name members ≤ 1 then settle members slots draft else none := by
  induction slots generalizing draft with
  | nil =>
      have hnone : ∀ members, gather [] members draft = some draft := by
        intro members
        induction members with
        | nil => rfl
        | cons member members ih => simpa [gather] using ih
      simp [hnone, settle]
  | cons s slots ih =>
      obtain ⟨hs, happart⟩ := List.pairwise_cons.mp happart
      -- No other slot is concerned with the members of the first one, so they can go first.
      rw [gather_cons hs, gather_single members (hblank s List.mem_cons_self), settle_single, settle]
      simp only [List.forall_mem_cons]
      by_cases honce : occurrences s.name members ≤ 1
      · rw [if_pos honce]
        simp only [honce, true_and]
        split
        next tree _ =>
          cases hfill : s.fill tree draft with
          | none => simp
          | some draft' =>
              refine ih happart fun t ht => ?_
              rw [(hs t ht).isSet_fill hfill]
              exact hblank t (List.mem_cons_of_mem _ ht)
        next => exact ih happart fun t ht => hblank t (List.mem_cons_of_mem _ ht)
      · simp [honce]

theorem Apart.isSet_settle (h : ∀ t ∈ slots, t.Apart s) {members : List (String × Tree)}
    {draft draft' : δ} (hsettle : settle members slots draft = some draft') :
    s.isSet draft' = s.isSet draft := by
  induction slots generalizing draft with
  | nil =>
      cases hsettle
      rfl
  | cons t slots ih =>
      have ih' := @ih fun t ht => h t (List.mem_cons_of_mem _ ht)
      rw [settle] at hsettle
      split at hsettle
      · obtain ⟨mid, hfill, hsettle⟩ := Option.bind_eq_some_iff.mp hsettle
        rw [ih' hsettle, (h t List.mem_cons_self).isSet_fill hfill]
      · exact ih' hsettle

/-- The slots that are filled are those that have a member. -/
theorem isSet_settle (happart : slots.Pairwise Apart) {members : List (String × Tree)}
    {draft draft' : δ} (hblank : ∀ s ∈ slots, s.isSet draft = false)
    (hsettle : settle members slots draft = some draft') :
    ∀ s ∈ slots, s.isSet draft' = (members.lookup s.name).isSome := by
  induction slots generalizing draft with
  | nil => simp
  | cons s slots ih =>
      obtain ⟨hs, happart⟩ := List.pairwise_cons.mp happart
      obtain ⟨hblankHead, hblank⟩ := List.forall_mem_cons.mp hblank
      have hs' := fun t ht => (hs t ht).symm
      rw [settle] at hsettle
      split at hsettle
      next tree hlookup =>
        obtain ⟨mid, hfill, hsettle⟩ := Option.bind_eq_some_iff.mp hsettle
        refine List.forall_mem_cons.mpr ⟨?_, ih happart (fun t ht => ?_) hsettle⟩
        · rw [Apart.isSet_settle hs' hsettle, isSet_of_fill hfill, hlookup]
          rfl
        · rw [(hs t ht).isSet_fill hfill]
          exact hblank t ht
      next hlookup =>
        refine List.forall_mem_cons.mpr ⟨?_, ih happart hblank hsettle⟩
        rw [Apart.isSet_settle hs' hsettle, hblankHead, hlookup]
        rfl

end Slot

/-! ## Records -/

/-- The slots of a format: its fields are read into them, they keep apart, and they are empty in the
draft that reading begins with. -/
structure Layout {δ α : Type} (f : Format δ α) where
  slots : List (Slot δ)
  fields_eq : f.fields = slots.map Slot.field
  apart : slots.Pairwise Slot.Apart
  blank : ∀ s ∈ slots, s.isSet f.blank = false

namespace Layout

variable {δ α : Type} {f : Format δ α} (l : Layout f)

/-- The names of the fields. -/
def names : List String := l.slots.map Slot.name

/-- The record that members make, each field by itself. -/
def ofMembers (members : List (String × Tree)) : Option α :=
  if Slot.complete members l.slots then
    (Slot.settle members l.slots f.blank).map f.finish
  else none

/-- The record that a tree makes. -/
def project (tree : Tree) : Option α := (tree.members? l.names).bind l.ofMembers

/-! ### Objects -/

theorem readMember_toOption {key : String} {tree : Tree} {bs behind rest : Bytes}
    (hcolon : skipBlanks bs = byte ':' :: behind) (htree : Spells (.value tree) behind rest)
    (draft : δ) :
    (f.readMember key draft bs).toOption =
      (Slot.gather l.slots [(key, tree)] draft).map (·, rest) := by
  have hskip : skipColon bs = .ok behind := by simp [skipColon, hcolon, expectBytes]
  have hfind : f.fields.find? (·.name == key) =
      (l.slots.find? (·.name == key)).map Slot.field := by
    rw [l.fields_eq, List.find?_map]
    rfl
  rw [Format.readMember, hfind, Slot.gather]
  cases l.slots.find? (·.name == key) with
  | none => simp [hskip, htree.skipValue_eq, Slot.gather]
  | some s =>
      by_cases hset : s.isSet draft
      · simp [Slot.field, hset, Slot.enter]
      · have hread := s.field_read htree draft
        simp only [Option.map_some, hskip, Reading.ok_bind, Slot.enter, hset]
        simpa [Slot.field, hset, Slot.gather] using hread

/-- A member is read before those behind it. -/
theorem readMembers_cons {isFirst : Bool} {key : String} {tree : Tree}
    {members : List (String × Tree)} {bs rest : Bytes}
    (h : Spells (.members isFirst ((key, tree) :: members)) bs rest) :
    ∃ mid behind after, skipBlanks mid = byte ':' :: behind ∧ Spells (.value tree) behind after ∧
      Spells (.members false members) after rest ∧ after.length < bs.length ∧
      ∀ steps draft, f.readMembers (steps + 1) isFirst draft bs =
        (f.readMember key draft mid >>= fun (draft, rest) =>
          f.readMembers steps false draft rest) := by
  cases h with
  | membersFirst hmember hmembers =>
      have hlength := hmember.length
      cases hmember with
      | member hhead hkey hcolon htree =>
          refine ⟨_, _, _, hcolon, htree, hmembers, hlength, fun steps draft => ?_⟩
          rw [Format.readMembers]
          simp +decide [hhead, expectBytes, hkey]
  | membersNext hcomma hmember hmembers =>
      have hlength := hmember.length.trans (length_of_skipBlanks hcomma)
      cases hmember with
      | member hhead hkey hcolon htree =>
          refine ⟨_, _, _, hcolon, htree, hmembers, hlength, fun steps draft => ?_⟩
          rw [Format.readMembers]
          simp +decide [hcomma, hhead, expectBytes, hkey]

theorem readMembers_toOption {members : List (String × Tree)} {isFirst : Bool} {bs rest : Bytes}
    (h : Spells (.members isFirst members) bs rest) (draft : δ) (steps : Nat)
    (hsteps : bs.length < steps) :
    (f.readMembers steps isFirst draft bs).toOption =
      (Slot.gather l.slots members draft).map (·, rest) := by
  induction members generalizing isFirst bs draft steps with
  | nil =>
      obtain ⟨steps, rfl⟩ : ∃ k, steps = k + 1 := ⟨steps - 1, by omega⟩
      cases h with
      | membersEnd hhead => simp [Format.readMembers, hhead, Slot.gather]
  | cons member members ih =>
      obtain ⟨steps, rfl⟩ : ∃ k, steps = k + 1 := ⟨steps - 1, by omega⟩
      obtain ⟨mid, behind, after, hcolon, htree, hmembers, hlength, hread⟩ :=
        readMembers_cons (f := f) h
      have ih' := fun draft => ih hmembers draft steps (by omega)
      rw [hread, Reading.toOption_bind, l.readMember_toOption hcolon htree,
        Slot.gather_head member members]
      cases Slot.gather l.slots [member] draft with
      | none => rfl
      | some draft' => exact ih' draft'

/-! ### Arrays -/

theorem zip_lookup {slots : List (Slot δ)} {s : Slot δ} (h : s.name ∉ slots.map Slot.name)
    (item : Tree) (items : List Tree) (t : Slot δ) (ht : t ∈ slots) :
    ((((s :: slots).map Slot.name).zip (item :: items)).lookup t.name).map t.view =
      (((slots.map Slot.name).zip items).lookup t.name).map t.view := by
  refine congrArg (Option.map t.view) (lookup_ne (fun heq => h ?_) item _)
  exact heq ▸ List.mem_map_of_mem ht

/-- The elements of an array are read into the slots in their order, up to the bracket. If more of
them are left, the array does not end there. -/
theorem readPositions_toOption {slots : List (Slot δ)} (hnames : (slots.map Slot.name).Nodup)
    {items : List Tree} (position : Nat) {bs rest : Bytes}
    (h : Spells (.items (position == 0) items) bs rest) (draft : δ) :
    (f.readPositions (slots.map Slot.field) position draft bs >>= fun (draft, bracket) =>
      endItems bracket >>= fun rest => .ok (draft, rest)).toOption =
      if items.length ≤ slots.length ∧ Slot.complete ((slots.map Slot.name).zip items) slots then
        (Slot.settle ((slots.map Slot.name).zip items) slots draft).map (·, rest)
      else none := by
  induction slots generalizing items position bs draft with
  | nil =>
      cases items with
      | nil => simp [Format.readPositions, (Spells.items_end h).2, Slot.settle, Slot.complete]
      | cons item items =>
          simp [Format.readPositions, Reading.toOption_bind, (Spells.items_next h).2]
  | cons s slots ih =>
      obtain ⟨hs, hnames⟩ := List.nodup_cons.mp hnames
      cases items with
      | nil =>
          -- The elements have run out, and every field that is left finds this out again.
          obtain ⟨hnext, hend⟩ := Spells.items_end h
          have hread : Spells (.items (position + 1 == 0) []) bs rest := by
            generalize (position == 0) = isFirst at h
            cases h with
            | itemsEnd hhead => exact .itemsEnd hhead
          have ih' := ih hnames (position + 1) hread draft
          simp only [List.zip_nil_right, List.length_nil, Nat.zero_le, true_and] at ih' ⊢
          rw [List.map_cons, Format.readPositions, hnext, Slot.settle, Slot.complete, List.all_cons]
          by_cases hrequired : s.required
          · simp [Slot.field, hrequired]
          · simpa [Slot.field, hrequired, Slot.complete] using ih'
      | cons item items =>
          -- The first element is that of the first field; the others never look at it.
          obtain ⟨⟨next, mid, hnext, -, hitem, hitems⟩, -⟩ := Spells.items_next h
          have hread := s.field_read hitem draft
          have hothers := zip_lookup hs item items
          have hself :
              (((s :: slots).map Slot.name).zip (item :: items)).lookup s.name = some item :=
            List.lookup_cons_self
          have ih' := fun draft => ih hnames (position + 1) hitems draft
          have hcomplete :
              Slot.complete (((s :: slots).map Slot.name).zip (item :: items)) (s :: slots) =
              Slot.complete ((slots.map Slot.name).zip items) slots := by
            rw [← Slot.complete_congr hothers]
            simp only [Slot.complete, List.all_cons, hself, Option.isSome_some, Bool.or_true,
              Bool.true_and]
          rw [List.map_cons, Format.readPositions, hnext, Slot.settle, hself, hcomplete]
          simp only [Reading.ok_bind, Reading.toOption_bind, hread, List.length_cons,
            Nat.add_le_add_iff_right] at ih' ⊢
          cases s.fill item draft with
          | none => simp
          | some draft' =>
              rw [Option.bind_some, Slot.settle_congr hothers, ← ih' draft']
              rfl

/-! ### Both -/

theorem names_nodup : (l.slots.map Slot.name).Nodup :=
  List.pairwise_map.mpr (l.apart.imp Slot.Apart.name_ne)

theorem complete_toOption {members : List (String × Tree)} {draft : δ}
    (h : Slot.settle members l.slots f.blank = some draft) :
    (f.complete draft).toOption =
      if Slot.complete members l.slots then some (f.finish draft) else none := by
  have hset := Slot.isSet_settle l.apart l.blank h
  unfold Format.complete
  rw [l.fields_eq, List.find?_map]
  cases hfind : l.slots.find? ((fun field => field.required && !field.isSet draft) ∘ Slot.field) with
  | none =>
      -- No field is both required and empty: every required slot has its member.
      have hcomplete : Slot.complete members l.slots = true := by
        rw [List.find?_eq_none] at hfind
        refine List.all_eq_true.mpr fun s hs => ?_
        cases hrequired : s.required with
        | false => rfl
        | true => simpa [Slot.field, hrequired, hset s hs] using hfind s hs
      rw [if_pos hcomplete]
      rfl
  | some s =>
      have hs := List.mem_of_find?_eq_some hfind
      have hmissing := List.find?_some hfind
      have hcomplete : ¬ Slot.complete members l.slots = true := by
        intro hall
        have hthere := List.all_eq_true.mp hall s hs
        rw [← hset s hs] at hthere
        simp [Slot.field] at hmissing
        simp [hmissing] at hthere
      rw [if_neg hcomplete]
      rfl

/-- Reading a record is looking at its tree. -/
theorem read_mirrors : Mirrors f.read l.project := by
  intro tree bs rest h
  cases h with
  | @object _ more _ members hhead hmembers =>
      -- The members of an object are gathered as they come, and settled if none comes twice.
      have hread := l.readMembers_toOption hmembers f.blank _ (length_lt_stepsFor more)
      rw [Slot.gather_eq_settle l.apart members l.blank] at hread
      simp only [Format.read, hhead, if_true, Reading.toOption_bind, hread, project, Tree.members?,
        names, List.forall_mem_map]
      by_cases honce : ∀ s ∈ l.slots, occurrences s.name members ≤ 1
      · rw [if_pos honce, if_pos honce, Option.bind_some, ofMembers]
        cases hsettle : Slot.settle members l.slots f.blank with
        | none => simp
        | some draft =>
            simp only [Option.map_some, Option.bind_some, l.complete_toOption hsettle]
            split
            · rfl
            · rfl
      · rw [if_neg honce, if_neg honce]
        rfl
  | @array _ more _ items hhead hitems =>
      -- The elements of an array belong to the slots in their order.
      have hread := readPositions_toOption (f := f) l.names_nodup 0 hitems f.blank
      rw [← l.fields_eq] at hread
      have hrecord : (f.read bs).toOption =
          ((f.readPositions f.fields 0 f.blank more >>= fun (draft, bracket) =>
            endItems bracket >>= fun rest => .ok (draft, rest)).toOption).map fun (draft, rest) =>
              (f.finish draft, rest) := by
        simp +decide only [Format.read, hhead, if_true, if_false]
        cases f.readPositions f.fields 0 f.blank more with
        | error e => rfl
        | ok x =>
            simp only [Reading.ok_bind]
            cases endItems x.2 with
            | error e => rfl
            | ok rest => rfl
      rw [hrecord, hread]
      simp only [project, Tree.members?, names, List.length_map]
      by_cases hlength : items.length ≤ l.slots.length
      · rw [if_pos hlength, Option.bind_some, ofMembers]
        simp only [hlength, true_and]
        split
        · simp [Function.comp_def]
        · rfl
      · simp [hlength]
  | string hhead _ => simp +decide [Format.read, hhead, project, Tree.members?]
  | number hread _ =>
      obtain ⟨b, more, hhead, hb⟩ := isDigit_head hread
      have hne := fun c => @numeral_head_ne b hb c
      simp [Format.read, hhead, hne, project, Tree.members?]
  | null hhead | yes hhead | no hhead =>
      simp +decide [Format.read, hhead, project, Tree.members?]

end Layout
end LoadMonitor.Json
