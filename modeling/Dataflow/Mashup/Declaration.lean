import Dataflow.Mashup.Attribute
import Dataflow.Mashup.Literal
import Dataflow.Mashup.Name

/-!
# Queries and their declarations

A `Query` has a name, the code of its expression and perhaps an attribute.  `declare` writes the
text of its declaration: the expression is made a `let` block first, so that it is complete, and the
attribute stands on a line of its own.

Going back is the hard direction, since a document is not written by this program alone.
`declarations` finds the `shared` queries of any text.  Each begins with a `heading`, the keyword, a
name and an equals sign, that does not lie in a literal or comment.  Its attribute is what stands
before the heading (`entrancesFrom`), and its body reaches to the last semicolon before the next
declaration, or to the last character that is not blank where no semicolon is left (`bodyStop`).  An
attribute that reaches back over the heading before it is no attribute but the tail of an expression
that lacks its semicolon, and is dropped.
-/

set_option autoImplicit false

namespace Dataflow
namespace Mashup

/-! ## Writing a declaration -/

/-- A query of a document. -/
structure Query where
  /-- The plain name. -/
  name : Text
  /-- The expression. -/
  code : Text
  /-- The attribute in front, empty when there is none. -/
  attr : Text
deriving DecidableEq

/-- The characters between two lines that are written. -/
def lineBreak : Text := ['\r', '\n']

/-- Whether an expression begins with the word `let`. -/
def isLetBlock (code : Text) : Bool :=
  match keyword? (text "let") code with
  | some rest => endsWord rest
  | none => false

/-- An expression as a `let` block. -/
def letBlock (code : Text) : Text :=
  let trimmed := Text.strip code
  if isLetBlock trimmed then trimmed
  else text "let\n Source = " ++ trimmed ++ text "\n in Source"

/-- The text of a declaration. -/
def declare (name code : Text) (attr : Option Text) : Text :=
  let declaration :=
    text "shared " ++ Name.written name ++ text " = " ++ letBlock code ++ [';']
  match Attribute.given? attr with
  | some a => a ++ lineBreak ++ declaration
  | none => declaration

/-! ## Headings -/

/-- The beginning of a declaration: the keyword, a name as it is written, an equals sign and the
blanks behind it. -/
def heading : Pattern Text := fun before t => do
  guard (startsWord before)
  let rest ← keyword? (text "shared") t
  let rest ← someBlanks? rest
  let (name, rest) ← nameToken? rest
  let rest ← sign? '=' (blanks rest)
  return (name, blanks rest)

/-- The headings of a document that do not begin inside a literal or comment. -/
def headings (t : Text) : List (Occurrence Text) :=
  let spans := literalSpans t
  (occurrences heading t).filter fun h => isCode spans h.start

/-! ## Declarations -/

/-- A declaration and where it lies. -/
structure Declaration where
  /-- The plain name. -/
  name : Text
  /-- The expression, without the semicolon. -/
  code : Text
  /-- The attribute, empty when there is none. -/
  attr : Text
  /-- The offset of the attribute, or of the keyword when there is none. -/
  start : Nat
  /-- The offset behind the semicolon. -/
  stop : Nat
deriving DecidableEq

/-- A declaration without its place. -/
def Declaration.query (d : Declaration) : Query := ⟨d.name, d.code, d.attr⟩

/-- The offset of the last semicolon outside the spans in a text that begins at offset `pos`;
`found` is the last one before. -/
def lastSemicolonFrom (spans : List Span) :
    (pos : Nat) → (found : Option Nat) → Text → Option Nat
  | _, found, [] => found
  | pos, found, c :: rest =>
    lastSemicolonFrom spans (pos + 1)
      (if c = ';' ∧ isCode spans pos then some pos else found) rest

/-- The offset behind the body that begins at `start`, where the next declaration, or the end of
the document, lies at `boundary`. -/
def bodyStop (spans : List Span) (t : Text) (start boundary : Nat) : Nat :=
  let body := Text.slice t start boundary
  match lastSemicolonFrom spans start none body with
  | some semicolon => semicolon + 1
  | none => start + (Text.stripEnd body).length

/-- A body without the semicolon at its end and the blanks around it. -/
def codeOfBody (body : Text) : Text :=
  let trimmed := Text.strip body
  if trimmed.getLast? = some ';' then Text.strip trimmed.dropLast else trimmed

/-- A heading with its attribute. -/
structure Entrance where
  /-- The heading. -/
  heading : Occurrence Text
  /-- The attribute before it. -/
  attr : Option PlacedAttribute

/-- The offset at which a declaration begins. -/
def Entrance.start (e : Entrance) : Nat :=
  match e.attr with
  | some a => a.start
  | none => e.heading.start

/-- The headings with their attributes, the one before the first heading ending at `previous`.
An attribute that begins before the end of the previous heading is dropped. -/
def entrancesFrom (t : Text) : (previous : Nat) → List (Occurrence Text) → List Entrance
  | _, [] => []
  | previous, h :: rest =>
    let attr := (attributeBefore? t h.start).filter fun a => previous ≤ a.start
    ⟨h, attr⟩ :: entrancesFrom t h.stop rest

/-- The declaration behind an entrance, the next thing lying at `boundary`. -/
def declarationOf (spans : List Span) (t : Text) (e : Entrance) (boundary : Nat) : Declaration :=
  let bodyStart := e.heading.stop
  let stop := bodyStop spans t bodyStart boundary
  { name := Name.plain e.heading.value
    code := codeOfBody (Text.slice t bodyStart stop)
    attr := (e.attr.map PlacedAttribute.value).getD []
    start := e.start
    stop := stop }

/-- The declarations behind a list of entrances. -/
def declarationsOf (spans : List Span) (t : Text) : List Entrance → List Declaration
  | [] => []
  | e :: rest =>
    let boundary := (rest.head?.map Entrance.start).getD t.length
    declarationOf spans t e boundary :: declarationsOf spans t rest

/-- The declarations of a document, in order. -/
def declarations (t : Text) : List Declaration :=
  declarationsOf (literalSpans t) t (entrancesFrom t 0 (headings t))

/-- The queries of a document, in order. -/
def queries (t : Text) : List Query := (declarations t).map Declaration.query

/-- The first declaration of a name. -/
def declaration? (t : Text) (name : Text) : Option Declaration :=
  (declarations t).find? fun d => d.name == name

end Mashup
end Dataflow
