import KeyedComposite.Text.Width

/-! # Tables drawn with rounded box characters

A box table has a header row, body rows and an optional footer row, each with one cell per
column. Every column is as wide as its widest line, in display columns, plus a space on
either side. The header and the footer are written in upper case; header cells are aligned
left, body and footer cells as their column says. Rules of light box-drawing characters,
with rounded outer corners, go around the table, below the header and above the footer; a
cell of several lines makes its row as tall as its tallest cell.

A cell's text is laid out as a terminal would show it: a tab takes four spaces, a carriage
return before a newline goes away, and any other carriage return sends the cursor back to
the start of its line, so that what follows it overwrites what stands there.

Upper case here is the ASCII one: the header and footer texts of this program are ASCII.
-/
namespace KeyedComposite.BoxTable

/-- How a column's cells sit in it. -/
inductive Align where
  | left
  | right
  deriving DecidableEq

/-- A table: column headers and alignments, rows, and a footer when there is one. -/
structure Table where
  headers : List String
  aligns : List Align
  rows : List (List String)
  footer : List String := []

/-- A line after its carriage returns: each one sends the cursor back to the line's start,
and the characters after it overwrite those there, one by one. -/
def overstrike (line : List Char) : List Char :=
  (line.foldl (fun (acc : List Char × Nat) c =>
    if c = '\r' then (acc.1, 0)
    else if acc.2 < acc.1.length then (acc.1.set acc.2 c, acc.2 + 1)
    else (acc.1 ++ [c], acc.2 + 1)) ([], 0)).1

def cellText (s : String) : String :=
  let lines := ((s.replace "\t" "    ").replace "\r\n" "\n").splitOn "\n"
  "\n".intercalate (lines.map fun l => String.ofList (overstrike l.toList))

def cellLines (s : String) : List String := s.splitOn "\n"

def cellWidth (s : String) : Nat := ((cellLines s).map Width.ofString).foldl max 0

def pad (a : Align) (w : Nat) (s : String) : String :=
  let fill := String.ofList (List.replicate (w - Width.ofString s) ' ')
  match a with
  | .left => s ++ fill
  | .right => fill ++ s

def fit (n : Nat) (row : List String) : List String :=
  (List.range n).map fun i => row.getD i ""

def rowLines (widths : List Nat) (aligns : List Align) (row : List String) : List String :=
  let cells := row.map cellLines
  let height := (cells.map List.length).foldl max 1
  (List.range height).map fun k =>
    let parts := (List.range widths.length).map fun i =>
      " " ++ pad (aligns.getD i .left) (widths.getD i 0) ((cells.getD i []).getD k "") ++ " "
    "│" ++ "│".intercalate parts ++ "│"

def rule (widths : List Nat) (left mid right : String) : String :=
  left ++ mid.intercalate (widths.map fun w => String.ofList (List.replicate (w + 2) '─')) ++ right

/-- The text of a table, its lines joined by newlines, with no final newline. -/
def Table.render (t : Table) : String :=
  let n := t.headers.length
  let upper (s : String) := s.map Char.toUpper
  let header := (fit n t.headers).map (upper ∘ cellText)
  let rows := t.rows.map fun r => (fit n r).map cellText
  let footer := if t.footer.isEmpty then none else some ((fit n t.footer).map (upper ∘ cellText))
  let all := header :: rows ++ footer.toList
  let widths := (List.range n).map fun i => (all.map fun r => cellWidth (r.getD i "")).foldl max 0
  let aligns := (List.range n).map fun i => t.aligns.getD i .left
  let lines :=
    [rule widths "╭" "┬" "╮"] ++ rowLines widths (List.replicate n .left) header ++
    [rule widths "├" "┼" "┤"] ++ (rows.map (rowLines widths aligns)).flatten ++
    (match footer with
      | some f => [rule widths "├" "┼" "┤"] ++ rowLines widths aligns f
      | none => []) ++
    [rule widths "╰" "┴" "╯"]
  "\n".intercalate lines

end KeyedComposite.BoxTable
