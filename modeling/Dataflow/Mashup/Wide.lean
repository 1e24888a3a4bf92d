import Dataflow.Mashup.Section

/-!
# Queries that a caller hands over

A document that comes out of a payload is a text of characters.  What a caller hands over, a name,
some code, an attribute or a whole document, need not be one: it may hold surrogate halves, and then
it has no payload.  That is found out only when the document is written, and not every half gets as
far as the document: a section attribute is left out when one with its key is there, and a staging
marker given for a query gives way to one given for the section.  So the functions here do for wide
texts what those of `Dataflow.Mashup.Section` and `Dataflow.Mashup.Declaration` do for texts.

Nothing that is looked for in a document holds a half, no keyword, no name without quotes, no sign
and no bracket.  Hence no grammar is written down a second time: what is found, and where, is found
in the outline (`WideText.outline`), and the pieces are cut out of the wide text at the same
offsets.  That all of this comes to the same as before where a text has no halves is shown in
`Dataflow.Proofs.Wide`.
-/

set_option autoImplicit false

namespace Dataflow
namespace Mashup

/-- A query of a wide text. -/
structure WideQuery where
  /-- The plain name. -/
  name : WideText
  /-- The expression. -/
  code : WideText
  /-- The attribute in front, empty when there is none. -/
  attr : WideText
deriving DecidableEq

/-- A query as one of a wide text. -/
def Query.widen (q : Query) : WideQuery :=
  ⟨Text.widen q.name, Text.widen q.code, Text.widen q.attr⟩

namespace Wide

/-! ## Names and attributes -/

/-- The plain name of a written one. -/
def plain (t : WideText) : WideText :=
  if Name.isQuoted t.outline then Text.single (.scalar '"') (Text.slice t 2 (t.length - 1)) else t

/-- A name as it is written behind `shared`. -/
def written (name : WideText) : WideText :=
  if Name.isQuoted name.outline || Name.isBare name.outline then name
  else wide "#\"" ++ Text.double (.scalar '"') name ++ wide "\""

/-- An attribute without the blanks around it, and none if nothing else is left. -/
def given? (attr : Option WideText) : Option WideText :=
  match attr with
  | none => none
  | some a => if a.all CodePoint.isBlank then none else some a.strip

/-- The name of the query to which an attribute sends the data: what stands between the two quotes
with which the field ends. -/
def destination? (attr : Option WideText) : Option WideText := do
  let a ← attr
  guard (Attribute.destinationMarker.isIn a.outline)
  let found ← (occurrences Attribute.queryNameField a.outline).head?
  return Text.slice a (found.stop - 1 - found.value.length) (found.stop - 1)

/-- The attributes of the query and of the section, after a staging marker has moved from the
first to the second. -/
def settleAttributes (attr sectionAttr : Option WideText) : Option WideText × Option WideText :=
  match given? attr with
  | some a =>
    if Attribute.isStaging a.outline then (none, (given? sectionAttr).or (some a))
    else (some a, given? sectionAttr)
  | none => (none, given? sectionAttr)

/-! ## Writing -/

/-- An expression as a `let` block. -/
def letBlock (code : WideText) : WideText :=
  let trimmed := code.strip
  if isLetBlock trimmed.outline then trimmed
  else wide "let\n Source = " ++ trimmed ++ wide "\n in Source"

/-- The text of a declaration. -/
def declare (name code : WideText) (attr : Option WideText) : WideText :=
  let declaration := wide "shared " ++ written name ++ wide " = " ++ letBlock code ++ wide ";"
  match given? attr with
  | some a => a ++ Text.widen lineBreak ++ declaration
  | none => declaration

/-- Whether a section whose header lies at an offset has an attribute. -/
def hasSectionAttribute (t : WideText) (header : Nat) (attr : WideText) : Bool :=
  Text.occursIn attr (t.take header)
    || match attributeKeyBefore? t.outline header with
      | some key => Attribute.key? attr.outline == some key
      | none => false

/-- The document with an attribute before its section header. -/
def withSectionAttribute (t : WideText) (attr : Option WideText) : WideText :=
  match given? attr, sectionHeader? t.outline with
  | some a, some header =>
    if hasSectionAttribute t header a then t
    else t.take header ++ a ++ Text.widen lineBreak ++ t.drop header
  | _, _ => t

/-- A document of a header and one declaration. -/
def newSection (trimmed : Text) (declaration : WideText) (sectionAttr : Option WideText) :
    WideText :=
  let header := if trimmed.isEmpty then defaultHeader else trimmed
  let front := match sectionAttr with
    | some a => a ++ Text.widen lineBreak
    | none => []
  front ++ Text.widen header ++ Text.widen lineBreak ++ declaration

/-- The document with a query replaced or appended. -/
def upsert (t : Text) (name code : WideText) (attr sectionAttr : Option WideText) : WideText :=
  let (own, shared) := settleAttributes attr sectionAttr
  let declaration := declare name code own
  match (declarations t).find? fun d => Text.widen d.name == plain name with
  | some old =>
    withSectionAttribute
      (Text.widen (t.take old.start) ++ declaration ++ Text.widen (t.drop old.stop)) shared
  | none =>
    if isBareSection t then newSection (Text.strip t) declaration shared
    else
      let separator := if t.getLast? = some '\n' then [] else lineBreak
      withSectionAttribute (Text.widen t ++ Text.widen separator ++ declaration) shared

/-! ## Reading -/

/-- The offset of the name in a heading of a document. -/
def nameStart (t : Text) (h : Occurrence Text) : Nat :=
  t.length - (blanks (t.drop (h.start + (text "shared").length))).length

/-- A body without the semicolon at its end and the blanks around it. -/
def codeOfBody (body : WideText) : WideText :=
  let trimmed := body.strip
  if trimmed.getLast? = some (.scalar ';') then WideText.strip trimmed.dropLast else trimmed

/-- The query behind an entrance to the outline of a document, the next thing lying at
`boundary`. -/
def queryOf (spans : List Span) (t : WideText) (e : Entrance) (boundary : Nat) : WideQuery :=
  let start := nameStart t.outline e.heading
  let stop := bodyStop spans t.outline e.heading.stop boundary
  { name := plain (Text.slice t start (start + e.heading.value.length))
    code := codeOfBody (Text.slice t e.heading.stop stop)
    attr := (e.attr.map fun a => Text.slice t a.start (a.start + a.value.length)).getD [] }

/-- The queries behind a list of entrances. -/
def queriesOf (spans : List Span) (t : WideText) : List Entrance → List WideQuery
  | [] => []
  | e :: rest =>
    let boundary := (rest.head?.map Entrance.start).getD t.length
    queryOf spans t e boundary :: queriesOf spans t rest

/-- The queries of a document, in order. -/
def queries (t : WideText) : List WideQuery :=
  queriesOf (literalSpans t.outline) t (entrancesFrom t.outline 0 (headings t.outline))

end Wide
end Mashup
end Dataflow
