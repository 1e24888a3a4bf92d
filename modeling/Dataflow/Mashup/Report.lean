import Dataflow.Mashup.Section

/-!
# Checking a document

`inspect` looks for structural faults: a section header, at least one query, brackets that are
opened as often as they are closed.  What the code means is not looked at.  As many `let` as `in`
is expected too, but only warned about.
-/

set_option autoImplicit false

namespace Dataflow
namespace Mashup

/-- The three kinds of brackets. -/
inductive BracketKind where
  | parentheses
  | braces
  | squareBrackets
deriving DecidableEq

namespace BracketKind

/-- The kinds in the order in which they are reported. -/
def all : List BracketKind := [.parentheses, .braces, .squareBrackets]

/-- The opening and the closing character. -/
def marks : BracketKind → Char × Char
  | parentheses => ('(', ')')
  | braces => ('{', '}')
  | squareBrackets => ('[', ']')

/-- What a kind is called. -/
def label : BracketKind → String
  | parentheses => "parentheses"
  | braces => "braces"
  | squareBrackets => "square brackets"

end BracketKind

/-- What makes a document invalid. -/
inductive Fault where
  /-- The word `section` does not occur. -/
  | noSection
  /-- There is no section header with its semicolon. -/
  | openSection
  /-- The word `shared` does not occur. -/
  | noQueries
  /-- Brackets of a kind are not closed as often as they are opened. -/
  | unbalanced (kind : BracketKind) (opening closing : Nat)
deriving DecidableEq

/-- What is odd about a document. -/
inductive Warning where
  /-- The words `let` and `in` do not occur equally often. -/
  | letIn (lets ins : Nat)
deriving DecidableEq

/-- The wording of a fault. -/
def Fault.message : Fault → Text
  | .noSection => text "Document must contain a section declaration (e.g., 'section Section1;')"
  | .openSection => text "Section declaration must end with semicolon (e.g., 'section Section1;')"
  | .noQueries => text "Document must contain at least one 'shared' query declaration"
  | .unbalanced kind opening closing =>
    text "Unbalanced " ++ text kind.label ++ text ": " ++ decimal opening ++ text " opening, "
      ++ decimal closing ++ text " closing"

/-- What to do about a fault. -/
def Fault.suggestion? : Fault → Option Text
  | .noSection => some (text "Start the document with 'section Section1;'")
  | .noQueries =>
    some (text "Declare queries with 'shared QueryName = let ... in ...;'")
  | _ => none

/-- The wording of a warning. -/
def Warning.message : Warning → Text
  | .letIn lets ins =>
    text "Mismatched let/in keywords: " ++ decimal lets ++ text " 'let', " ++ decimal ins
      ++ text " 'in'. This may be intentional for simple expressions."

/-- What was found out about a document. -/
structure Report where
  /-- Whether the document stages its data by fast copy. -/
  isGen2 : Bool
  /-- The faults, in the order of the checks. -/
  faults : List Fault
  /-- The warnings. -/
  warnings : List Warning
deriving DecidableEq

/-- A document is valid when no fault was found. -/
def Report.isValid (r : Report) : Bool := r.faults.isEmpty

/-- What to do about the faults. -/
def Report.suggestions (r : Report) : List Text := r.faults.filterMap Fault.suggestion?

/-! ## The checks -/

/-- The word `section` and a blank. -/
def sectionKeyword : Pattern Unit := fun before t => do
  guard (startsWord before)
  let rest ← keyword? (text "section") t
  let rest ← someBlanks? rest
  return ((), rest)

/-- A section header with a bare name. -/
def bareHeader : Pattern Unit := fun before t => do
  let ((), rest) ← sectionKeyword before t
  let (_, rest) ← word? rest
  let rest ← sign? ';' (blanks rest)
  return ((), rest)

/-- The word `shared` and a blank. -/
def sharedKeyword : Pattern Unit := fun before t => do
  guard (startsWord before)
  let rest ← keyword? (text "shared") t
  let rest ← someBlanks? rest
  return ((), rest)

/-- What is wrong with the section header. -/
def sectionFaults (t : Text) : List Fault :=
  if !sectionKeyword.isIn t then [.noSection]
  else if !bareHeader.isIn t then [.openSection]
  else []

/-- What is wrong with the queries. -/
def queryFaults (t : Text) : List Fault := if sharedKeyword.isIn t then [] else [.noQueries]

/-- What is wrong with the brackets outside literals and comments. -/
def bracketFaults (t : Text) : List Fault :=
  BracketKind.all.filterMap fun kind =>
    let opening := countInCode t kind.marks.1
    let closing := countInCode t kind.marks.2
    if opening = closing then none else some (.unbalanced kind opening closing)

/-- How often a keyword stands as a word of its own, literals and comments included. -/
def countWord (letters : Text) (t : Text) : Nat := (occurrences (Pattern.word letters) t).length

/-- Look a document over. -/
def inspect (t : Text) : Report :=
  let lets := countWord (text "let") t
  let ins := countWord (text "in") t
  { isGen2 := Text.occursIn (text "[StagingDefinition") t && Text.occursIn (text "FastCopy") t
    faults := sectionFaults t ++ queryFaults t ++ bracketFaults t
    warnings := if lets = ins then [] else [.letIn lets ins] }

end Mashup
end Dataflow
