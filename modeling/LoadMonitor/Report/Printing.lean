import LoadMonitor.Binary64.Decimal
import LoadMonitor.Report.Summary
import LoadMonitor.Text.Columns

/-!
# The printed summary

What is shown of the operations at the end of a run: a table drawn with box characters. It has
a rule above, below and between all rows, one blank on either side of a cell, every column as wide
as its widest line, and cells aligned to the left. A cell may have several lines.
-/

/-! ## Tables -/

namespace LoadMonitor.Table

/-- The lines of a cell. -/
def cellLines (cell : String) : List (List Char) := (cell.splitOn "\n").map String.toList

/-- The columns that a cell takes. -/
def cellWidth (cell : String) : Nat :=
  ((cellLines cell).map Columns.ofChars).foldl max 0

/-- The width of every column. -/
def widths : List (List String) → List Nat
  | [] => []
  | row :: rest =>
    rest.foldl (fun ws r => ws.zipWith max (r.map cellWidth)) (row.map cellWidth)

/-- The characters that a rule is made of. -/
structure RuleStyle where
  left : Char
  joint : Char
  right : Char

def topRule : RuleStyle := ⟨'┌', '┬', '┐'⟩

def middleRule : RuleStyle := ⟨'├', '┼', '┤'⟩

def bottomRule : RuleStyle := ⟨'└', '┴', '┘'⟩

/-- A rule across columns of the given widths. -/
def rule (style : RuleStyle) (ws : List Nat) : List Char :=
  style.left :: ([style.joint].intercalate (ws.map fun w => List.replicate (w + 2) '─'))
    ++ [style.right]

/-- A line of a cell between blanks. -/
def padded (w : Nat) (line : List Char) : List Char :=
  ' ' :: line ++ List.replicate (w - Columns.ofChars line) ' ' ++ [' ']

/-- The lines of a row. -/
def rowLines (ws : List Nat) (row : List String) : List (List Char) :=
  let cells := row.map cellLines
  let height := (cells.map List.length).foldl max 0
  (List.range height).map fun i =>
    '│' :: ['│'].intercalate ((ws.zip cells).map fun (w, ls) => padded w (ls.getD i [])) ++ ['│']

/-- Rows with a rule before each but the first. -/
def ruledRows (ws : List Nat) : List (List String) → List (List Char)
  | [] => []
  | [row] => rowLines ws row
  | row :: next :: rest => rowLines ws row ++ rule middleRule ws :: ruledRows ws (next :: rest)

/-- The text of a table, without a line end after its last line. -/
def text (rows : List (List String)) : String :=
  let ws := widths rows
  let lines := rule topRule ws :: ruledRows ws rows ++ [rule bottomRule ws]
  String.ofList (['\n'].intercalate lines)

end LoadMonitor.Table

/-! ## Tables of operations -/

namespace LoadMonitor

/-- The headings of the table. -/
def OperationSummary.headings : List String :=
  ["operation_id", "avg_time_ms", "min_time_ms", "max_time_ms", "total_operations", "errors"]

/-- The cells of a row; times are shown with two places. -/
def OperationSummary.cells (r : OperationSummary) : List String :=
  [r.operation, r.average.fixed 2, r.least.fixed 2, r.greatest.fixed 2,
    toString r.total, toString r.errors]

namespace Summary

/-- Logged instead of a table when there is nothing to show. -/
def nothingToShow : Diagnostic := .debug "No operations recorded, skipping summary"

/-- The table of the operations, if there are any. -/
def printed? (records : List OperationRecord) : Option String :=
  match rows records with
  | [] => none
  | rs => some <|
    let table := Table.text (OperationSummary.headings :: rs.map (·.cells))
    "\nSummary of operations\n" ++ table ++ "\n"

/-- What a summary prints and logs. -/
def shown (records : List OperationRecord) : String × List Diagnostic :=
  match printed? records with
  | some text => (text, [])
  | none => ("", [nothingToShow])

end Summary
end LoadMonitor
