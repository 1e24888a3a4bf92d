import Dataflow.Proofs.Enclosure
import Dataflow.Proofs.Rendering

/-!
# Attributes that are read back

A query that is written into an empty document with an enclosed attribute has it in front of its
heading, and nothing in the attribute or before it is taken for another heading.  So the document
holds this one query.  Whether the query has its attribute is up to the walk from the last character
of the attribute, and this begins and ends in the attribute, wherever the attribute stands.

By its design the walk does not take a quote right behind a backslash for one, so it may miss the
first character of an attribute with such a quote.  `IsRetraceable` leaves out what is not by
design: marks in a comment that are not paired there, since the walk does not know comments, and
quotes behind a backslash that is itself escaped.
-/

set_option autoImplicit false

namespace Dataflow
namespace Mashup

/-! ## Texts that are passed over -/

/-- A text in which no heading begins, whatever follows. -/
def IsPassedOver (u : Text) : Prop :=
  ∀ v, occurrences heading (u ++ v) = (occurrences heading v).map (.shift u.length)

namespace IsPassedOver

variable {u v : Text}

theorem append (hu : IsPassedOver u) (hv : IsPassedOver v) : IsPassedOver (u ++ v) := by
  intro w
  rw [List.append_assoc, hu, hv, List.map_map, List.length_append]
  refine List.map_congr_left fun o _ => ?_
  simp only [Function.comp_apply, Occurrence.shift, Nat.add_assoc]

theorem unreached (hu : IsPassedOver u) (v : Text) : Unreached heading u v := by
  intro o ho hlt
  rw [hu] at ho
  obtain ⟨o', -, rfl⟩ := List.mem_map.1 ho
  simp only [Occurrence.shift] at hlt
  omega

theorem headings_eq_nil (hu : IsPassedOver u) : headings u = [] := by
  have hnone := hu []
  rw [List.append_nil] at hnone
  rw [headings_eq, Pattern.live, hnone]
  rfl

end IsPassedOver

/-- A sealed text without a heading is passed over. -/
theorem Sealed.isPassedOver {u : Text} (hu : Sealed u) (hnone : occurrences heading u = []) :
    IsPassedOver u := by
  intro v
  rw [occurrences_append isLocal_heading (hu.unreached v) (heading_seam hu.word v), hnone,
    List.nil_append]

theorem IsEnclosed.isPassedOver {a : Text} (h : IsEnclosed a) :
    IsPassedOver (attributeLine (some a)) := by
  intro v
  rw [occurrences, occurrencesFrom_line h.last h.unmarked,
    occurrencesFrom_congr (heading_seam (by decide) v), occurrences, ← occurrencesFrom_shift,
    Nat.zero_add, Nat.add_zero]

/-- Blanks in front of a text hide no mark in it. -/
theorem foundAfter_of_blank_append {letters : Text} {b : Option Char} {ws t : Text}
    (hws : Text.allBlank ws = true) (hb : startsWord b = true)
    (h : (keywordMark letters).foundAfter b (ws ++ t) = false) :
    (keywordMark letters).isIn t = false := by
  induction ws generalizing b with
  | nil =>
    have hb : startsWord b = startsWord none := hb
    rwa [List.nil_append, foundAfter_congr hb] at h
  | cons c ws ih =>
    rw [Text.allBlank, List.all_cons, Bool.and_eq_true] at hws
    rw [List.cons_append, Pattern.foundAfter_cons, Bool.or_eq_false_iff] at h
    refine ih hws.2 ?_ h.2
    simp [startsWord, isWord_of_isBlank hws.1]

/-- Stripping a text makes no mark. -/
theorem isIn_strip {letters t : Text} (h : (keywordMark letters).isIn t = false) :
    (keywordMark letters).isIn (Text.strip t) = false := by
  have hsplit := List.takeWhile_append_dropWhile (p := isBlank) (l := t)
  rw [← hsplit] at h
  have hdrop := foundAfter_of_blank_append
    (List.all_eq_true.2 (fun _ => List.mem_takeWhile_imp)) rfl h
  obtain ⟨tail, htail⟩ := Text.stripEnd_prefix (t.dropWhile isBlank)
  rw [← htail] at hdrop
  exact foundAfter_of_append hdrop

/-! ## A query with an enclosed attribute -/

/-- What stands before the keyword of the only query of a document. -/
def frontOf (a : Text) : Text := defaultHeader ++ lineBreak ++ attributeLine (some a)

namespace IsEnclosed

variable {a : Text}

theorem given?_eq (h : IsEnclosed a) : Attribute.given? (some a) = some a := by
  have hstrip : Text.strip a = a :=
    Text.strip_eq_self (by rw [h.head]; decide) (by rw [h.last]; decide)
  have hblank : ¬Text.allBlank a = true := by
    rw [← Text.strip_eq_nil_iff, hstrip]
    exact h.ne_nil
  rw [Attribute.given?, if_neg hblank, hstrip]

theorem isPassedOver_frontOf (h : IsEnclosed a) : IsPassedOver (frontOf a) := by
  have hheader : IsPassedOver defaultHeader := sealed_defaultHeader.isPassedOver (by decide)
  have hbreak : IsPassedOver lineBreak :=
    (sealed_of_allBlank allBlank_lineBreak).isPassedOver (by decide)
  exact (hheader.append hbreak).append h.isPassedOver

theorem leavesNothingOpen_frontOf (h : IsEnclosed a) : leavesNothingOpen (frontOf a) = true := by
  have hheader : Lex.code.run (defaultHeader ++ lineBreak) = .code := by decide
  rw [leavesNothingOpen_eq, frontOf, Lex.run_append, hheader, run_line h.closed]
  rfl

theorem dangling?_frontOf (h : IsEnclosed a) :
    dangling? (frontOf a) = attributeAtEnd? (defaultHeader ++ lineBreak ++ a) := by
  have hfront : frontOf a = defaultHeader ++ lineBreak ++ a ++ lineBreak := by
    simp [frontOf, attributeLine]
  have hfrom : bodyFrom (frontOf a) = 0 := by
    rw [bodyFrom, h.isPassedOver_frontOf.headings_eq_nil]
    rfl
  rw [dangling?, hfrom, hfront, attributeAtEnd?_append_of_allBlank _ allBlank_lineBreak]
  cases attributeAtEnd? (defaultHeader ++ lineBreak ++ a) <;> simp

/-- Behind a text without brackets, an attribute that is found as a whole is where the walk over it
alone stops at its first character. -/
theorem bracketAtEnd?_of_attributeAtEnd? (h : IsEnclosed a) {front : Text} (hplain : '[' ∉ front)
    (hvalue : ((attributeAtEnd? (front ++ a)).map PlacedAttribute.value).getD [] = a) :
    Mashup.bracketAtEnd? a = some 0 := by
  have hstrip : Text.stripEnd (front ++ a) = front ++ a :=
    Text.stripEnd_eq_self (by rw [List.getLast?_append, h.last, Option.some_or]; decide)
  cases hfound : attributeAtEnd? (front ++ a) with
  | none =>
    rw [hfound] at hvalue
    exact absurd hvalue.symm h.ne_nil
  | some b =>
    obtain ⟨hb, hval, -⟩ := attributeAtEnd?_eq_some_iff.1 hfound
    rw [hstrip] at hb hval
    have hle : front.length ≤ b.start := by
      refine Nat.le_of_not_lt fun hlt => hplain ?_
      have hopen := getElem?_of_bracketAtEnd? hb
      rw [List.getElem?_append_left hlt] at hopen
      exact List.mem_of_getElem? hopen
    have hdrop : a.drop (b.start - front.length) = a := by
      rw [hfound, Option.map_some, Option.getD_some, hval, List.drop_append,
        List.drop_eq_nil_of_le hle, List.nil_append] at hvalue
      exact hvalue
    have hstart : b.start - front.length = 0 := by
      have hlen := congrArg List.length hdrop
      have hpos := List.length_pos_iff.2 h.ne_nil
      rw [List.length_drop] at hlen
      omega
    rw [bracketAtEnd?_of_append h.ne_nil hb hle, hstart]

/-- The attribute that is found is the one that was written just when the walk over it alone stops
at its first character. -/
theorem dangling_frontOf (h : IsEnclosed a) :
    ((dangling? (frontOf a)).map PlacedAttribute.value).getD [] = a ↔
      Mashup.bracketAtEnd? a = some 0 := by
  rw [h.dangling?_frontOf]
  refine ⟨h.bracketAtEnd?_of_attributeAtEnd? (by decide), fun hbracket => ?_⟩
  have hattr : IsAttribute a := ⟨hbracket, h.isStaging, h.closed, h.unmarked⟩
  rw [attributeAtEnd?_append_of_some hattr.attributeAtEnd?]
  rfl

/-- The document of one query with an attribute. -/
theorem upsert_nil (h : IsEnclosed a) (name code : Text) :
    upsert [] name code (some a) none =
      frontOf a ++ declared (Name.written name) (letBlock code) none := by
  have hsettle : settleAttributes (some a) none = (some a, none) := by
    rw [settleAttributes, h.given?_eq]
    simp [h.isStaging, Attribute.given?]
  have hdeclare : declare name code (some a) =
      attributeLine (some a) ++ declared (Name.written name) (letBlock code) none := by
    rw [declare_eq, h.given?_eq, declared_eq_append]
  have hnone : declaration? [] (Name.plain name) = none := rfl
  have hbare : isBareSection [] = true := rfl
  have hempty : Text.strip [] = [] := rfl
  rw [upsert, hsettle]
  simp only [hnone, hbare, hdeclare, newSection, hempty]
  simp [frontOf]

end IsEnclosed

/-- A query whose body has no heading in it is all that is declared. -/
theorem Legible.length_headings {name body : Text} (h : Legible name body)
    (hmark : (keywordMark (text "shared")).isIn body = false) :
    (headings (declared name body none)).length ≤ 1 := by
  have hocc : occurrences heading (declared name body none) = _ :=
    occurrencesFrom_opening h.name h.solid hmark rfl 0 []
  rw [headings_eq, Pattern.live]
  refine Nat.le_trans (List.length_filter_le _ _) ?_
  rw [hocc]
  exact Nat.le_refl 1

/-- Behind a text that is passed over, such a query is the only one.  It has the attribute that the
text ends with. -/
theorem IsPassedOver.queries_declared {u name body : Text} (hu : IsPassedOver u)
    (hclosed : leavesNothingOpen u = true) (hword : startsWord u.getLast? = true)
    (hl : Legible name body) (hmark : (keywordMark (text "shared")).isIn body = false) :
    ∃ q, queries (u ++ declared name body none) = [q] ∧ q.name = Name.plain name ∧
      q.attr = ((dangling? u).map PlacedAttribute.value).getD [] := by
  have hreach := hu.unreached (declared name body none ++ [])
  obtain ⟨front, d, rest, hdecl, -, -, hall, hnames, -⟩ :=
    declarations_behind hl hclosed hword hreach
  obtain ⟨hs, hheadings⟩ := hl.headings_declared []
  have hnamed := map_name_declarations (declared name body none)
  have hlength := length_queries (declared name body none)
  rw [List.append_nil] at hdecl hall hheadings
  -- nothing is declared in front, and nothing behind
  rw [hu.headings_eq_nil, List.map_nil, List.map_eq_nil_iff] at hnames
  have hrest : rest = [] := by
    have hone := hl.length_headings hmark
    rw [queries, hdecl, List.length_map, List.length_cons] at hlength
    exact List.length_eq_zero_iff.1 (by omega)
  rw [hdecl, hheadings, List.map_cons, List.map_cons, List.cons.injEq] at hnamed
  subst hnames hrest
  rw [queries, hall]
  exact ⟨_, rfl, hnamed.1, rfl⟩

/-- Of the query that is written with an enclosed attribute, the attribute is read back just when
the walk from its last character stops at the first. -/
theorem queries_upsert_enclosed {name code a : Text} (hne : name ≠ [])
    (hname : Text.hasPrefix name ['#', '"'] = false) (ha : IsEnclosed a)
    (hlet : isLetBlock (Text.strip code) = true)
    (hmark : (keywordMark (text "shared")).isIn code = false) :
    ∃ q, queries (upsert [] name code (some a) none) = [q] ∧ q.name = name ∧
      (q.attr = a ↔ openBracket? a (a.length - 1) = some 0) := by
  have hbody := isIn_strip hmark
  have hfound := ha.dangling_frontOf
  rw [← letBlock_of_isLetBlock hlet] at hbody
  have hl : Legible (Name.written name) (letBlock code) :=
    ⟨Name.isNameToken_written hne hname, letBlock_isSolid code⟩
  have hword : startsWord (frontOf a).getLast? = true :=
    startsWord_attributeLine (by decide) (some a)
  obtain ⟨q, hq, hqname, hattr⟩ := ha.isPassedOver_frontOf.queries_declared
    ha.leavesNothingOpen_frontOf hword hl hbody
  rw [Name.plain_written, Name.plain_eq_self hname] at hqname
  rw [← hattr] at hfound
  rw [ha.upsert_nil, ← bracketAtEnd?_eq]
  exact ⟨q, hq, hqname, hfound⟩

/-! ## Backslashes -/

/-- How many backslashes stand right before an offset. -/
def backslashesBefore (t : Text) (i : Nat) : Nat :=
  ((t.take i).reverse.takeWhile (· == '\\')).length

theorem backslashesBefore_ne_zero {t : Text} {i : Nat} (h : (t.take i).getLast? = some '\\') :
    backslashesBefore t i ≠ 0 := by
  obtain ⟨front, hfront⟩ := List.getLast?_eq_some_iff.1 h
  rw [backslashesBefore, hfront, List.reverse_concat]
  simp

/-- Every comment of a text is paired, and no quote outside of comments stands behind a backslash
that is itself escaped. -/
structure IsRetraceable (t : Text) : Prop where
  /-- The comments pair their quotes, brackets and braces. -/
  comments : PairsComments t
  /-- Before a quote there is no backslash, or an odd number of them. -/
  quotes : ∀ i < t.length, IsQuote t i → backslashesBefore t i = 0 ∨ backslashesBefore t i % 2 = 1

instance (t : Text) : Decidable (IsRetraceable t) :=
  decidable_of_iff (PairsComments t ∧ ∀ i < t.length, IsQuote t i →
      backslashesBefore t i = 0 ∨ backslashesBefore t i % 2 = 1)
    ⟨fun ⟨hcomments, hquotes⟩ => ⟨hcomments, hquotes⟩, fun h => ⟨h.comments, h.quotes⟩⟩

/-- No quote outside of comments stands behind an unescaped backslash. -/
def QuotesUnescaped (t : Text) : Prop :=
  ∀ i < t.length, IsQuote t i → backslashesBefore t i % 2 = 0

instance (t : Text) : Decidable (QuotesUnescaped t) :=
  inferInstanceAs (Decidable (∀ i < t.length, IsQuote t i → backslashesBefore t i % 2 = 0))

theorem IsRetraceable.getLast?_take_ne {t : Text} (h : IsRetraceable t) (hq : QuotesUnescaped t)
    {i : Nat} (hi : IsQuote t i) : (t.take i).getLast? ≠ some '\\' := by
  intro hlast
  obtain ⟨hlt, -⟩ := List.getElem?_eq_some_iff.1 hi.1
  have hsome := backslashesBefore_ne_zero hlast
  have hodd := h.quotes i hlt hi
  have heven := hq i hlt hi
  omega

/-- Brackets in a string, a quote in it, a list of records, and a comment with brackets and a
string. -/
def nestedAttribute : Text :=
  text "[Kind = \"a]\"\"[\", Items = \x7b[x = 1], 2\x7d /* [two] \"]\" */]"

/-- A path that ends in a backslash. -/
def pathAttribute : Text := text "[Path = \"C:\\\"]"

end Mashup
end Dataflow
