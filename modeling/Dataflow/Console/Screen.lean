import Dataflow.Console.Markup
import Dataflow.Console.Table

/-!
# What a command prints

A command prints lines and tables, both of marked-up text, one after the other.  A line that is
wider than the screen goes on in the next one.  An item with broken markup prints nothing and ends
the output.
-/

set_option autoImplicit false

namespace Dataflow

/-- Something that is printed. -/
inductive ScreenItem where
  /-- A line. -/
  | line (markup : Text)
  /-- A table, whose cells are marked up. -/
  | table (t : Table)

namespace ScreenItem

/-- All of the plain texts of a list, if none is broken. -/
def plainAll? : List Text → Option (List Text)
  | [] => some []
  | t :: rest =>
    match Markup.plain? t, plainAll? rest with
    | some t, some rest => some (t :: rest)
    | _, _ => none

/-- The plain texts of the rows of a table, if none is broken. -/
def plainRows? : List (List Text) → Option (List (List Text))
  | [] => some []
  | row :: rest =>
    match plainAll? row, plainRows? rest with
    | some row, some rest => some (row :: rest)
    | _, _ => none

/-- The plain text of an item. -/
def render? : ScreenItem → Option Text
  | line markup =>
    (Markup.plain? markup).map fun t =>
      (Console.fit .fold Console.screenWidth t).flatMap (· ++ ['\n'])
  | table t => (plainRows? t.rows).map fun rows => { t with rows }.render

/-- The plain text of some items, and whether all of them could be printed. -/
def renderAll : List ScreenItem → Text × Bool
  | [] => ([], true)
  | item :: rest =>
    match item.render? with
    | some t =>
      let (more, complete) := renderAll rest
      (t ++ more, complete)
    | none => ([], false)

end ScreenItem

/-- A line in one style. -/
def styled (style : String) (t : Text) : Text :=
  text "[" ++ text style ++ text "]" ++ t ++ text "[/" ++ text style ++ text "]"

end Dataflow
