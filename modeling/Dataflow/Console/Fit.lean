import Dataflow.Text.Blank

/-!
# Fitting text into a width

The screen has a number of columns, and so has the column of a table.  `fit` gives the lines of a
text in such a width.  A tab is filled up with blanks to the next multiple of eight (`expandTabs`).
A line that is too wide is broken in front of a word (`breakWords`), and the blanks that reach
beyond the width are dropped.

A word that is too wide for a line of its own is an `Overflow`: it is cut into pieces on the screen,
and cut off in a table, where an ellipsis stands in its last column.

Every character but a control character is taken to fill one column.
-/

set_option autoImplicit false

namespace Dataflow
namespace Console

/-- The number of columns of the screen. -/
def screenWidth : Nat := 500

/-- The number of columns from one tab stop to the next. -/
def tabWidth : Nat := 8

/-! ## The width of a text -/

/-- How many columns a character fills. -/
def columnsOf (c : Char) : Nat :=
  if c.toNat < 0x20 ∨ (0x7F ≤ c.toNat ∧ c.toNat < 0xA0) then 0 else 1

/-- How many columns a text fills. -/
def columns (t : Text) : Nat := t.foldr (fun c n => columnsOf c + n) 0

/-- The longest beginning of a text that fills at most a number of columns. -/
def takeColumns : (width : Nat) → Text → Text
  | _, [] => []
  | width, c :: rest =>
    if columnsOf c ≤ width then c :: takeColumns (width - columnsOf c) rest else []

/-- A text with its tabs filled up, that begins in a column. -/
def expandTabs : (column : Nat) → Text → Text
  | _, [] => []
  | column, c :: rest =>
    if c = '\t' then
      let next := (column / tabWidth + 1) * tabWidth
      List.replicate (next - column) ' ' ++ expandTabs next rest
    else c :: expandTabs (column + columnsOf c) rest

/-! ## Breaking a line -/

/-- The lines of a text. -/
def linesOf (t : Text) : List Text :=
  t.foldr
    (fun c lines =>
      match c, lines with
      | '\n', _ => [] :: lines
      | c, line :: rest => (c :: line) :: rest
      | c, [] => [[c]])
    [[]]

/-- The words of what follows `word`; `closed` says that a blank stands behind its last letter. -/
def wordsFrom (word : Text) (closed : Bool) : Text → List Text
  | [] => [word]
  | c :: rest =>
    if closed && !isBlank c then word :: wordsFrom [c] false rest
    else wordsFrom (word ++ [c]) (isBlank c && !Text.allBlank word) rest

/-- The words of a line, each with the blanks behind it, and the first one with those in front. -/
def words (t : Text) : List Text := wordsFrom [] false t

/-- A text cut into pieces of at most `width` columns; the first one goes on where `used` columns
are filled. -/
def pieces (width : Nat) : (used : Nat) → Text → List Text
  | _, [] => [[]]
  | used, c :: rest =>
    let (fits, next) :=
      if used + columnsOf c ≤ width then (true, used + columnsOf c) else (false, columnsOf c)
    match pieces width next rest with
    | piece :: more => if fits then (c :: piece) :: more else [] :: (c :: piece) :: more
    | [] => [[c]]

/-- What becomes of a word that is too wide for a line. -/
inductive Overflow where
  /-- It goes on in the next line. -/
  | fold
  /-- Its end is replaced by an ellipsis. -/
  | ellipsis
deriving DecidableEq

/-- The lines of some words, the first of which begins with `line`. -/
def breakWords (overflow : Overflow) (width : Nat) : (line : Text) → List Text → List Text
  | line, [] => [line]
  | line, word :: rest =>
    let size := columns (Text.stripEnd word)
    let before := if line.isEmpty then [] else [line]
    if columns line + size ≤ width then breakWords overflow width (line ++ word) rest
    else if width < size ∧ overflow = .fold then
      let cut := pieces width 0 word
      before ++ cut.dropLast ++ breakWords overflow width (cut.getLast?.getD []) rest
    else before ++ breakWords overflow width word rest

/-- A line that is cut off if it is too wide. -/
def cutOff (overflow : Overflow) (width : Nat) (line : Text) : Text :=
  let trimmed := line.take (max width (Text.stripEnd line).length)
  if columns trimmed ≤ width then trimmed
  else
    match overflow with
    | .fold => takeColumns width trimmed
    | .ellipsis => takeColumns (width - 1) trimmed ++ ['…']

/-- The lines of a text in a number of columns. -/
def fit (overflow : Overflow) (width : Nat) (t : Text) : List Text :=
  (linesOf t).flatMap fun line =>
    (breakWords overflow width [] (words (expandTabs 0 line))).map (cutOff overflow width)

end Console
end Dataflow
