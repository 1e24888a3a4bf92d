import Dataflow.Text.Basic

/-!
# Literals and comments

A mashup document is never parsed as a whole.  What has to be known of it is which stretches are
string literals and comments, because a keyword, a bracket or a semicolon inside them means nothing.
`literalSpans` reads a document once, from left to right, and lists these stretches.

* A string literal runs from a quote to the next quote that is not doubled.
* A line comment runs from `//` to just before the next line feed.
* A block comment runs from `/*` to just past the next `*/`.
* What is left open runs to the end of the document.

An offset is then looked up in the list by halving (`covers`), and what counts characters does so in
`codeOf`, the document with these stretches cut out.
-/

set_option autoImplicit false

namespace Dataflow
namespace Mashup

/-- The offsets from `start` up to, and without, `stop`. -/
structure Span where
  /-- The first offset. -/
  start : Nat
  /-- The offset after the last one. -/
  stop : Nat
deriving DecidableEq

/-- What the reader is inside of; `start` is the offset at which a stretch began. -/
inductive Mode where
  | code
  | string (start : Nat)
  | line (start : Nat)
  | block (start : Nat)
deriving DecidableEq

/-- The stretches of what follows offset `pos`, read in a mode. -/
def spansFrom : Mode → (pos : Nat) → Text → List Span
  | .code, _, [] => []
  | .string start, pos, [] => [⟨start, pos⟩]
  | .line start, pos, [] => [⟨start, pos⟩]
  | .block start, pos, [] => [⟨start, pos⟩]
  | .code, pos, '"' :: rest => spansFrom (.string pos) (pos + 1) rest
  | .code, pos, '/' :: '/' :: rest => spansFrom (.line pos) (pos + 2) rest
  | .code, pos, '/' :: '*' :: rest => spansFrom (.block pos) (pos + 2) rest
  | .code, pos, _ :: rest => spansFrom .code (pos + 1) rest
  | .string start, pos, '"' :: '"' :: rest => spansFrom (.string start) (pos + 2) rest
  | .string start, pos, '"' :: rest => ⟨start, pos + 1⟩ :: spansFrom .code (pos + 1) rest
  | .string start, pos, _ :: rest => spansFrom (.string start) (pos + 1) rest
  | .line start, pos, '\n' :: rest => ⟨start, pos⟩ :: spansFrom .code (pos + 1) rest
  | .line start, pos, _ :: rest => spansFrom (.line start) (pos + 1) rest
  | .block start, pos, '*' :: '/' :: rest => ⟨start, pos + 2⟩ :: spansFrom .code (pos + 2) rest
  | .block start, pos, _ :: rest => spansFrom (.block start) (pos + 1) rest

/-- The string literals and comments of a document, in order. -/
def literalSpans (t : Text) : List Span := spansFrom .code 0 t

/-! ## Looking an offset up -/

/-- How many spans of a sorted list begin at or before `index`, given that `low` of them do and
that at most `high` do; `fuel` bounds how often the distance can be halved. -/
def rankWithin (spans : List Span) (index : Int) : (fuel : Nat) → (low high : Nat) → Nat
  | 0, low, _ => low
  | fuel + 1, low, high =>
    if low < high then
      let middle := (low + high) / 2
      match spans[middle]? with
      | some s =>
        if index < (s.start : Int) then rankWithin spans index fuel low middle
        else rankWithin spans index fuel (middle + 1) high
      | none => low
    else low

/-- How many spans of a sorted list begin at or before `index`. -/
def rank (spans : List Span) (index : Int) : Nat :=
  rankWithin spans index spans.length 0 spans.length

/-- Whether one of the spans, sorted and disjoint, holds `index`. -/
def covers (spans : List Span) (index : Int) : Bool :=
  match rank spans index with
  | 0 => false
  | n + 1 =>
    match spans[n]? with
    | some s => (s.start : Int) ≤ index && index < (s.stop : Int)
    | none => false

/-- Whether an offset lies outside the spans. -/
def isCode (spans : List Span) (pos : Nat) : Bool := !covers spans pos

/-! ## The text outside -/

/-- What is left of a text that begins at offset `pos` when the spans are cut out of it. -/
def cutOut (pos : Nat) (t : Text) : List Span → Text
  | [] => t
  | s :: rest => t.take (s.start - pos) ++ cutOut s.stop (t.drop (s.stop - pos)) rest

/-- A document without its string literals and comments. -/
def codeOf (t : Text) : Text := cutOut 0 t (literalSpans t)

/-- How often a character stands outside string literals and comments. -/
def countInCode (t : Text) (c : Char) : Nat := (codeOf t).count c

end Mashup
end Dataflow
