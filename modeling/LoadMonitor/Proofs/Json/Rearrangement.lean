import LoadMonitor.Proofs.Json.Layout
import Mathlib.Data.List.Forall2

/-!
# What a record does not show

The order of the members of a record makes no difference, and neither do members that are not
fields.
-/

namespace LoadMonitor.Json

namespace Tree

/-- Trees that differ in what a record with the named fields does not look at: in the order of
their members and in members that are not fields, and in their values as far as `same` allows. -/
inductive Alike (names : List String) (same : Tree → Tree → Prop) : Tree → Tree → Prop
  | order {ms ms' : List (String × Tree)} (h : ms.Perm ms') :
      Alike names same (object ms) (object ms')
  | unknown (ms : List (String × Tree)) {key : String} (value : Tree) (h : key ∉ names) :
      Alike names same (object ms) (object ((key, value) :: ms))
  | values {ms ms' : List (String × Tree)}
      (h : List.Forall₂ (fun m m' => m.1 = m'.1 ∧ same m.2 m'.2) ms ms') :
      Alike names same (object ms) (object ms')
  | elements {items items' : List Tree} (h : List.Forall₂ same items items') :
      Alike names same (array items) (array items')
  | refl (tree : Tree) : Alike names same tree tree
  | symm {tree tree' : Tree} (h : Alike names same tree tree') : Alike names same tree' tree
  | trans {tree tree' tree'' : Tree} (h : Alike names same tree tree')
      (h' : Alike names same tree' tree'') : Alike names same tree tree''

/-- Trees that are equal or arrays whose elements differ only as far as `same` allows. -/
inductive AlikeItems (same : Tree → Tree → Prop) : Tree → Tree → Prop
  | refl (tree : Tree) : AlikeItems same tree tree
  | items {ts ts' : List Tree} (h : List.Forall₂ same ts ts') :
      AlikeItems same (array ts) (array ts')

theorem AlikeItems.list?_eq {α : Type} {same : Tree → Tree → Prop} {view : Tree → Option α}
    (hsame : ∀ t t', same t t' → view t = view t') {tree tree' : Tree}
    (h : AlikeItems same tree tree') : tree.list? view = tree'.list? view := by
  cases h with
  | refl => rfl
  | items h =>
      induction h with
      | nil => rfl
      | cons head _ ih =>
          simp only [list?, List.mapM_cons] at ih ⊢
          rw [hsame _ _ head, ih]

end Tree

/-! ## Members that stand once -/

section Lookup

variable {key : String} {ms ms' : List (String × Tree)}

theorem occurrences_perm (h : ms.Perm ms') : occurrences key ms = occurrences key ms' :=
  (h.map Prod.fst).count_eq key

variable {α : Type} {same : Tree → Tree → Prop} {view : Tree → Option α}

theorem occurrences_values
    (h : List.Forall₂ (fun m m' : String × Tree => m.1 = m'.1 ∧ same m.2 m'.2) ms ms') :
    occurrences key ms = occurrences key ms' := by
  have hkeys : ms.map Prod.fst = ms'.map Prod.fst := by
    induction h with
    | nil => rfl
    | cons head _ ih => rw [List.map_cons, List.map_cons, head.1, ih]
  rw [occurrences, occurrences, hkeys]

theorem lookup_values (hsame : ∀ t t', same t t' → view t = view t')
    (h : List.Forall₂ (fun m m' : String × Tree => m.1 = m'.1 ∧ same m.2 m'.2) ms ms') :
    (ms.lookup key).map view = (ms'.lookup key).map view := by
  induction h with
  | nil => rfl
  | @cons m m' _ _ head _ ih =>
      rw [List.lookup_cons, List.lookup_cons, ← head.1]
      cases key == m.1 with
      | true => simp [hsame _ _ head.2]
      | false => exact ih

theorem zip_values (names : List String) {items items' : List Tree}
    (h : List.Forall₂ same items items') :
    List.Forall₂ (fun m m' : String × Tree => m.1 = m'.1 ∧ same m.2 m'.2) (names.zip items)
      (names.zip items') := by
  induction h generalizing names with
  | nil => simp
  | cons head _ ih =>
      cases names with
      | nil => simp
      | cons name names => exact .cons ⟨rfl, head⟩ (ih names)

end Lookup

/-! ## Records -/

namespace Layout

variable {δ α : Type} {f : Format δ α} (l : Layout f)

theorem ofMembers_congr {ms ms' : List (String × Tree)}
    (h : ∀ s ∈ l.slots, (ms.lookup s.name).map s.view = (ms'.lookup s.name).map s.view) :
    l.ofMembers ms = l.ofMembers ms' := by
  rw [ofMembers, ofMembers, Slot.complete_congr h, Slot.settle_congr h]

/-- Two objects with equally many members under every field, and members that look the same. -/
theorem project_object {ms ms' : List (String × Tree)}
    (honce : ∀ s ∈ l.slots, occurrences s.name ms = occurrences s.name ms')
    (h : (∀ s ∈ l.slots, occurrences s.name ms ≤ 1) →
      ∀ s ∈ l.slots, (ms.lookup s.name).map s.view = (ms'.lookup s.name).map s.view) :
    l.project (.object ms) = l.project (.object ms') := by
  have hiff : (∀ s ∈ l.slots, occurrences s.name ms ≤ 1) ↔
      ∀ s ∈ l.slots, occurrences s.name ms' ≤ 1 :=
    forall₂_congr fun s hs => by rw [honce s hs]
  simp only [project, Tree.members?, names, List.forall_mem_map]
  by_cases hms : ∀ s ∈ l.slots, occurrences s.name ms ≤ 1
  · rw [if_pos hms, if_pos (hiff.mp hms)]
    exact l.ofMembers_congr (h hms)
  · rw [if_neg hms, if_neg (hms ∘ hiff.mpr)]

theorem project_alike {same : Tree → Tree → Prop}
    (hsame : ∀ s ∈ l.slots, ∀ t t', same t t' → s.view t = s.view t') {tree tree' : Tree}
    (h : Tree.Alike l.names same tree tree') : l.project tree = l.project tree' := by
  induction h with
  | order hperm =>
      refine l.project_object (fun s _ => occurrences_perm hperm) fun honce s hs => ?_
      rw [lookup_perm hperm (honce s hs)]
  | @unknown ms key value hkey =>
      -- No slot has this name, so the member is neither counted nor looked up.
      have hne : ∀ s ∈ l.slots, s.name ≠ key := by
        rintro s hs rfl
        exact hkey (List.mem_map_of_mem hs)
      refine l.project_object (fun s hs => ?_) fun _ s hs => ?_
      · rw [occurrences_ne (hne s hs)]
      · rw [lookup_ne (hne s hs)]
  | values h =>
      exact l.project_object (fun s _ => occurrences_values h)
        fun _ s hs => lookup_values (hsame s hs) h
  | elements h =>
      simp only [project, Tree.members?, h.length_eq]
      split
      · exact l.ofMembers_congr fun s hs => lookup_values (hsame s hs) (zip_values _ h)
      · rfl
  | refl => rfl
  | symm _ ih => exact ih.symm
  | trans _ _ ih ih' => exact ih.trans ih'

end Layout
end LoadMonitor.Json
