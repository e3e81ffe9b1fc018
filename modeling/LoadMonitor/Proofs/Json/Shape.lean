import LoadMonitor.Json.Tree
import LoadMonitor.Proofs.Json.Members

/-!
# Shapes of trees

What a whole tree is when it is looked at as a text, as a number or as a record. A view gives
nothing where the tree does not have the shape.
-/

namespace LoadMonitor.Json

/-- How often a key stands among members. -/
def occurrences (key : String) (members : List (String × Tree)) : Nat :=
  (members.map Prod.fst).count key

theorem occurrences_self (key : String) (tree : Tree) (members : List (String × Tree)) :
    occurrences key ((key, tree) :: members) = occurrences key members + 1 := by
  simp [occurrences]

theorem occurrences_ne {key key' : String} (h : key ≠ key') (tree : Tree)
    (members : List (String × Tree)) :
    occurrences key ((key', tree) :: members) = occurrences key members := by
  simp [occurrences, h.symm]

namespace Tree

variable {α : Type}

/-! ## Views -/

/-- A string. -/
def text? : Tree → Option String
  | string s => some s
  | _ => none

/-- A number, as the nearest double. -/
def double? : Tree → Option Binary64
  | number n => n.value.map Number.toBinary64
  | _ => none

/-- A name: a string, or an object whose only member has that name and the value null. -/
def name? : Tree → Option String
  | string s => some s
  | object [(s, null)] => some s
  | _ => none

/-- An array of which every element has a view. -/
def list? (view : Tree → Option α) : Tree → Option (List α)
  | array items => items.mapM view
  | _ => none

/-- The members of a record with the named fields: those of an object in which every field stands
at most once, or the fields in their order with the elements of an array, of which there are no more
than fields. -/
def members? (names : List String) : Tree → Option (List (String × Tree))
  | object members =>
    if ∀ name ∈ names, occurrences name members ≤ 1 then some members else none
  | array items => if items.length ≤ names.length then some (names.zip items) else none
  | _ => none

/-- A field that has to be there. -/
def required (members : List (String × Tree)) (name : String) (view : Tree → Option α) :
    Option α :=
  match members.lookup name with
  | some tree => view tree
  | none => none

/-- A field that has a default. -/
def optional (members : List (String × Tree)) (name : String) (default : α)
    (view : Tree → Option α) : Option α :=
  match members.lookup name with
  | some tree => view tree
  | none => some default

end Tree
end LoadMonitor.Json
