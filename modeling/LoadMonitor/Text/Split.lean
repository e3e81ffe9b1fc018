/-!
# Splitting

Texts cut into pieces at separating characters.
-/

namespace LoadMonitor

/-- The pieces between separators; there is always at least one. -/
def splitAtChars (isSeparator : Char → Bool) : List Char → List (List Char)
  | [] => [[]]
  | c :: cs =>
    if isSeparator c then [] :: splitAtChars isSeparator cs
    else match splitAtChars isSeparator cs with
      | [] => [[c]]
      | piece :: rest => (c :: piece) :: rest

/-- The part before the first occurrence of a character, and the part after it if it occurs. -/
def cutAtChar (c : Char) : List Char → List Char × Option (List Char)
  | [] => ([], none)
  | d :: ds =>
    if d = c then ([], some ds)
    else
      let (before, after) := cutAtChar c ds
      (d :: before, after)

/-- The part before the last occurrence of a character, if it occurs, and the part after it. -/
def cutAtLastChar (c : Char) : List Char → Option (List Char) × List Char
  | [] => (none, [])
  | d :: ds =>
    match cutAtLastChar c ds with
    | (some before, after) => (some (d :: before), after)
    | (none, after) => if d = c then (some [], ds) else (none, d :: after)

end LoadMonitor
