import Dataflow.Console.Fit

/-!
# Tables

A `Table` has a title, a header and rows, and `Table.render` draws it.  Each column is as wide as
its widest cell or its header, with one blank on either side; cells begin at the left.  A heavy
frame goes around the header and a light one around the rows.  The title is centred over the whole
width.

A table that is wider than the screen is made narrower at its widest columns: `narrow` takes what is
too much from them until the next ones are as wide, and the cells are fitted into what is left.
-/

set_option autoImplicit false

namespace Dataflow

open Console

/-- A table of texts. -/
structure Table where
  /-- What stands above it. -/
  title : Text
  /-- The names of the columns. -/
  headers : List Text
  /-- The cells of each row. -/
  rows : List (List Text)

namespace Table

/-! ## The widths of the columns -/

/-- The width of a cell. -/
def widthOf (cell : Text) : Nat := ((linesOf cell).map columns).foldl max 0

/-- The widths that the columns would have on a screen without end. -/
def naturalWidths (t : Table) : List Nat :=
  t.rows.foldl (fun ws row => (ws.zip (row.map widthOf)).map fun w => max w.1 w.2)
    (t.headers.map widthOf)

/-- A part of `amount` for one of `shares`, rounded to the nearest number, and to the even one of
two. -/
def share (amount shares : Nat) : Nat :=
  let q := amount / shares
  let r := 2 * (amount % shares)
  if r < shares ∨ (r = shares ∧ q % 2 = 0) then q else q + 1

/-- The widths after `amount` was taken from those that equal `widest`, of which there are `shares`,
but no more than `limit` from each. -/
def takeFrom (widest limit : Nat) : (amount shares : Nat) → List Nat → List Nat
  | _, _, [] => []
  | amount, shares, w :: rest =>
    if w = widest then
      let cut := min limit (share amount shares)
      (w - cut) :: takeFrom widest limit (amount - cut) (shares - 1) rest
    else w :: takeFrom widest limit amount shares rest

/-- What the columns take together. -/
def total (ws : List Nat) : Nat := ws.foldr (· + ·) 0

/-- The widths made narrower until their sum is at most `room`: the widest ones go down to the next
widest, again and again.  The number of rounds is bounded by `fuel`. -/
def narrow (room : Nat) : (fuel : Nat) → List Nat → List Nat
  | 0, ws => ws
  | fuel + 1, ws =>
    if total ws ≤ room then ws
    else
      let widest := ws.foldl max 0
      let next := (ws.filter (· ≠ widest)).foldl max 0
      let excess := total ws - room
      narrow room fuel (takeFrom widest (min excess (widest - next)) excess (ws.count widest) ws)

/-- The widths of the columns. -/
def widths (t : Table) : List Nat :=
  let ws := t.naturalWidths
  let room := screenWidth - (ws.length + 1)
  let padded := ws.map fun w => min (w + 2) room
  (narrow room (total padded) padded).map (· - 2)

/-! ## The text -/

/-- A line of cells between the marks at its ends and between them. -/
def line (first between last : Char) (cells : List Text) : Text :=
  first :: (List.intercalate [between] cells ++ [last, '\n'])

/-- A line of the frame. -/
def rule (first fill between last : Char) (ws : List Nat) : Text :=
  line first between last (ws.map fun w => List.replicate (w + 2) fill)

/-- A text filled up with blanks to a width, with one more on either side. -/
def pad (width : Nat) (t : Text) : Text :=
  ' ' :: (t ++ List.replicate (width - columns t + 1) ' ')

/-- The lines of a row, which is as high as its highest cell. -/
def row (side : Char) (ws : List Nat) (cells : List Text) : Text :=
  let lines := (ws.zip cells).map fun c => fit .ellipsis c.1 c.2
  let height := (lines.map List.length).foldl max 1
  (List.range height).flatMap fun i =>
    line side side side ((ws.zip lines).map fun w => pad w.1 ((w.2[i]?).getD []))

/-- A text in the middle of a width. -/
def centre (width : Nat) (t : Text) : Text :=
  let before := (width - t.length) / 2
  List.replicate before ' ' ++ t ++ List.replicate (width - t.length - before) ' ' ++ ['\n']

/-- The text of a table. -/
def render (t : Table) : Text :=
  let ws := t.widths
  let width := total ws + 3 * ws.length + 1
  centre width t.title
    ++ rule '┏' '━' '┳' '┓' ws
    ++ row '┃' ws t.headers
    ++ rule '┡' '━' '╇' '┩' ws
    ++ t.rows.flatMap (row '│' ws)
    ++ rule '└' '─' '┴' '┘' ws

end Table
end Dataflow
