import Dataflow.Mashup.Declaration

/-!
# Writing into a document

A document is one section: it begins with `section`, a name and a semicolon, and an attribute of
the whole section, such as a staging marker, stands right before this header.
`withSectionAttribute` puts an attribute there unless one with the same text or the same key is
there already.

`upsert` writes one query into a document.  A query of that name is replaced where it stands, and
all text outside its declaration is kept; a new query goes to the end.  A document that is empty or
only a section header gets a header, and the section attribute, in front.  A staging marker given as
the attribute of the query is an attribute of the section, unless the section is given one of its
own (`settleAttributes`).
-/

set_option autoImplicit false

namespace Dataflow
namespace Mashup

/-! ## The section header -/

/-- The header that a document without one is given. -/
def defaultHeader : Text := text "section Section1;"

/-- A section header, with a bare or a quoted name. -/
def sectionHeader : Pattern Unit := fun before t => do
  guard (startsWord before)
  let rest ← keyword? (text "section") t
  let rest ← someBlanks? rest
  let (_, rest) ← nameToken? rest
  let rest ← sign? ';' (blanks rest)
  return ((), rest)

/-- The offset of the first section header outside literals and comments. -/
def sectionHeader? (t : Text) : Option Nat :=
  let spans := literalSpans t
  ((occurrences sectionHeader t).find? fun h => isCode spans h.start).map Occurrence.start

/-- Whether a document is empty or only a section header. -/
def isBareSection (t : Text) : Bool :=
  let trimmed := Text.strip t
  trimmed.isEmpty || sectionHeader.isWhole trimmed

/-- The key of the bracketed text that ends before an offset, staging markers included. -/
def attributeKeyBefore? (t : Text) (index : Nat) : Option WideText := do
  let close := lastSolidBefore t index
  let start ← openBracketAt? t close
  Attribute.key? (Text.slice t start (close.toNat + 1))

/-- Whether a section whose header lies at an offset has an attribute, by its text anywhere before
the header or by its key right before it. -/
def hasSectionAttribute (t : Text) (header : Nat) (attr : Text) : Bool :=
  Text.occursIn attr (t.take header)
    || match attributeKeyBefore? t header with
      | some key => Attribute.key? attr == some key
      | none => false

/-- The document with an attribute before its section header. -/
def withSectionAttribute (t : Text) (attr : Option Text) : Text :=
  match Attribute.given? attr, sectionHeader? t with
  | some a, some header =>
    if hasSectionAttribute t header a then t
    else t.take header ++ a ++ lineBreak ++ t.drop header
  | _, _ => t

/-! ## Inserting and replacing a query -/

/-- The attributes of the query and of the section, after a staging marker has moved from the
first to the second. -/
def settleAttributes (attr sectionAttr : Option Text) : Option Text × Option Text :=
  match Attribute.given? attr with
  | some a =>
    if Attribute.isStaging a then (none, (Attribute.given? sectionAttr).or (some a))
    else (some a, Attribute.given? sectionAttr)
  | none => (none, Attribute.given? sectionAttr)

/-- A document of a header and one declaration. -/
def newSection (trimmed declaration : Text) (sectionAttr : Option Text) : Text :=
  let header := if trimmed.isEmpty then defaultHeader else trimmed
  let front := match sectionAttr with
    | some a => a ++ lineBreak
    | none => []
  front ++ header ++ lineBreak ++ declaration

/-- The document with a query replaced or appended. -/
def upsert (t : Text) (name code : Text) (attr sectionAttr : Option Text) : Text :=
  let (own, shared) := settleAttributes attr sectionAttr
  let declaration := declare name code own
  match declaration? t (Name.plain name) with
  | some old =>
    withSectionAttribute (t.take old.start ++ declaration ++ t.drop old.stop) shared
  | none =>
    if isBareSection t then newSection (Text.strip t) declaration shared
    else
      let separator := if t.getLast? = some '\n' then [] else lineBreak
      withSectionAttribute (t ++ separator ++ declaration) shared

end Mashup
end Dataflow
