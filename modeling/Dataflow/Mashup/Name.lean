import Dataflow.Mashup.Keyword

/-!
# Names

A query is named by a bare name, a run of word characters, or by a quoted name: `#"`, the name with
every quote doubled, `"`.  `nameToken?` reads either form.  In the document a name that is not an
ASCII letter or underscore followed by word characters is always written quoted, which is
`Name.written`; everywhere else the plain name is used, which `Name.plain` makes of either form.
-/

set_option autoImplicit false

namespace Dataflow
namespace Mashup

/-! ## Reading a name in a document -/

/-- The characters up to and with the next quote that is not doubled, and what follows. -/
def untilQuote? : Text → Option (Text × Text)
  | [] => none
  | '"' :: '"' :: rest => (untilQuote? rest).map fun (body, after) => ('"' :: '"' :: body, after)
  | '"' :: rest => some (['"'], rest)
  | c :: rest => (untilQuote? rest).map fun (body, after) => (c :: body, after)

/-- A quoted or bare name at the beginning of a text as it is written there, and what follows.
There is no quoted name without a character. -/
def nameToken? : Text → Option (Text × Text)
  | '#' :: '"' :: rest =>
    match untilQuote? rest with
    | some (['"'], _) => none
    | some (body, after) => some ('#' :: '"' :: body, after)
    | none => none
  | t => word? t

/-! ## Written and plain names -/

namespace Name

/-- Whether a name is in quoted form. -/
def isQuoted (t : Text) : Bool :=
  Text.hasPrefix t ['#', '"'] && t.getLast? == some '"' && 3 ≤ t.length

/-- The plain name of a written one. -/
def plain (t : Text) : Text :=
  if isQuoted t then Text.single '"' (Text.slice t 2 (t.length - 1)) else t

/-- A name in quoted form. -/
def quoted (name : Text) : Text := '#' :: '"' :: (Text.double '"' name ++ ['"'])

/-- Whether a character is an ASCII letter or an underscore. -/
def isBareStart (c : Char) : Bool := c.isAlpha || c == '_'

/-- Whether a name can be written as it is. -/
def isBare : Text → Bool
  | [] => false
  | c :: rest => isBareStart c && rest.all isWord

/-- A name as it is written behind `shared`.  A name that is in quoted form already stays. -/
def written (name : Text) : Text :=
  if isQuoted name || isBare name then name else quoted name

theorem isQuoted_quoted (name : Text) : isQuoted (quoted name) = true := by
  simp [isQuoted, quoted, Text.hasPrefix, List.getLast?_cons]

/-- A quoted name reads back. -/
theorem plain_quoted (name : Text) : plain (quoted name) = name := by
  rw [plain, if_pos (isQuoted_quoted name)]
  have : Text.slice (quoted name) 2 ((quoted name).length - 1) = Text.double '"' name := by
    simp [Text.slice, quoted]
  rw [this, Text.single_double]

end Name
end Mashup
end Dataflow
