import Dataflow.Mashup.Section
import Dataflow.Proofs.Nesting
import Dataflow.Proofs.Seat
import Dataflow.Proofs.Trailing

/-!
# Appending a query

An upsert of a new name writes the declaration on a line of its own at the end.  What was there
before should not notice, and it does not, with two exceptions: an attribute-like text that the
document ends with becomes the attribute of the new query, wherever that text belongs, and a quote
that opened a name in a comment may find its partner in the new declaration.

Nothing else can happen, and `queries_upsert_new_iff` says so for every document.  A heading that
counts never reaches over the line break, because it could be cut there (`Named.cut_behind_blank`),
and there is no second heading in the text that is written; so when there is one more query than
before, it is the one at the end.
-/

set_option autoImplicit false

namespace Dataflow
namespace Mashup

/-! ## Cutting a heading -/

/-- Behind a blank, and before a character that is neither blank nor the sign, a heading is cut
inside of a quoted name or just before the name. -/
theorem Named.cut_behind_blank {letters x n u v : Text} {sign b c : Char}
    (h : Named letters sign x n) (hx : x = u ++ b :: c :: v) (hb : isBlank b = true)
    (hc : isBlank c = false) (hcq : c ≠ '"') (hsign : c ≠ sign)
    (hquote : avoids letters '"' = true) (hslash : avoids letters '/' = true)
    (hbl : avoids letters b = true) :
    Lex.code.run (u ++ [b]) = .string ∨
      ∃ ws, c :: v = n ++ (ws ++ [sign]) ∧ Text.allBlank ws = true ∧ IsNameToken n := by
  obtain ⟨hk, hne, hws, hn, hws'⟩ := h
  rename_i k ws ws'
  have hend : c ∉ ws' ++ [sign] := by
    rw [List.mem_append, List.mem_singleton, not_or]
    exact ⟨not_mem_of_allBlank hws' hc, hsign⟩
  obtain ⟨u₁, rfl, h₁⟩ := exists_of_append_cons hx (not_mem_of_keyword? hk hbl)
  have h₁ : ws ++ (n ++ (ws' ++ [sign])) = (u₁ ++ [b]) ++ c :: v := by
    rw [h₁]
    simp
  obtain ⟨y, hy, h₂⟩ := exists_of_append_cons h₁ (not_mem_of_allBlank hws hc)
  rcases List.eq_nil_or_concat y with rfl | ⟨y, d, rfl⟩
  · exact .inr ⟨ws', h₂.symm, hws', hn⟩
  · left
    rw [List.concat_eq_append] at hy h₂
    obtain rfl : b = d := by
      have := congrArg List.getLast? hy
      simpa [← List.append_assoc] using this
    rw [List.append_assoc, hy, Lex.run_append, Lex.run_append,
      run_code_of_keyword? hk hquote hslash, run_code_of_allBlank hws]
    cases hn with
    | bare _ hw =>
      rw [List.append_assoc, List.singleton_append] at h₂
      obtain ⟨z, -, hz⟩ := exists_of_append_cons h₂ fun h => by
        have := hw _ h
        rw [isWord_of_isBlank hb] at this
        cases this
      exact absurd (by rw [hz]; simp) hend
    | quoted hbody _ =>
      rcases y with _ | ⟨_, _ | ⟨_, y⟩⟩
      · obtain rfl : '#' = b := (List.cons.inj h₂).1
        exact absurd hb (by decide)
      · obtain rfl : '"' = b := (List.cons.inj (List.cons.inj h₂).2).1
        exact absurd hb (by decide)
      · simp only [List.cons_append, List.cons.injEq] at h₂
        obtain ⟨rfl, rfl, h₃⟩ := h₂
        exact run_string_of_body hbody h₃ hend hcq

/-! ## Headings behind a line break -/

theorem heading_eq_none_of_cons {b : Option Char} {c : Char} {t : Text}
    (hc : matchesLetter 's' c = false) : heading b (c :: t) = none :=
  heading_eq_none_iff.2 (named_eq_none_of_cons isKeyword_shared hc)

theorem heading_eq_none_of_split {b : Option Char} {u p t v : Text} {c : Char}
    (h : u = p ++ c :: t) (hu : u.all (fun c => !matchesLetter 's' c) = true) :
    heading b (c :: v) = none := by
  have hc : c ∈ u := by
    rw [h]
    simp
  exact heading_eq_none_of_cons (by simpa using List.all_eq_true.1 hu c hc)

theorem heading_eq_none_in_body {b : Option Char} {p t : Text} {c : Char}
    (hmark : (keywordMark (text "shared")).foundAfter b (p ++ c :: t) = false) :
    heading (p.getLast?.or b) (c :: (t ++ [';'])) = none := by
  cases hh : (heading (p.getLast?.or b) (c :: (t ++ [';']))).isSome with
  | false => simpa using hh
  | true =>
    have hbars := @keywordMark_of_barsMark (text "shared") ';' (by decide) [] _ (c :: t)
      (keywordMark_of_heading _ _ hh)
    rw [isSome_eq_false_of_foundAfter hmark] at hbars
    cases hbars.2

/-- Behind the first character of a written declaration, headings begin in its name or nowhere. -/
theorem inside_name_of_heading {name body p q : Text} {c : Char}
    (hmark : (keywordMark (text "shared")).isIn body = false)
    (h : declared name body none = p ++ c :: q) (hp : p ≠ [])
    (hsome : heading p.getLast? (c :: q) ≠ none) :
    ∃ p' t, p = text "shared " ++ p' ∧ name = p' ++ c :: t ∧
      q = t ++ (text " = " ++ (body ++ [';'])) := by
  have htext : text "shared " ++ (name ++ (text " = " ++ (body ++ [';']))) = p ++ c :: q := by
    rw [← h, declared, opening]
    simp [attributeLine]
  rcases append_eq_append_cases htext with ⟨p, rfl, h₁⟩ | ⟨d, t, hd, hq⟩
  · rcases append_eq_append_cases h₁ with ⟨p, rfl, h₂⟩ | ⟨d, t, rfl, hq⟩
    · rcases append_eq_append_cases h₂ with ⟨p, rfl, h₃⟩ | ⟨d, t, hd, hq⟩
      · rcases append_eq_append_cases h₃ with ⟨_ | ⟨d, t⟩, rfl, hq⟩ | ⟨d, t, rfl, hq⟩
        · -- the semicolon
          obtain rfl : ';' = c := (List.cons.inj hq).1
          exact absurd (heading_eq_none_of_cons (by decide)) hsome
        · simp at hq
        · have hlast : (text "shared " ++ (name ++ (text " = " ++ p))).getLast? =
              p.getLast?.or (some ' ') := by
            rw [List.getLast?_append, List.getLast?_append, List.getLast?_append]
            cases p.getLast? <;> rfl
          rw [Pattern.isIn, @foundAfter_congr _ none (some ' ') (by decide)] at hmark
          rw [hq, hlast] at hsome
          exact absurd (heading_eq_none_in_body hmark) hsome
      · -- between the name and the body
        obtain rfl : c = d := (List.cons.inj hq).1
        exact absurd (heading_eq_none_of_split hd (by decide)) hsome
    · obtain ⟨rfl, rfl⟩ := List.cons.inj hq
      exact ⟨p, t, rfl, rfl, rfl⟩
  · -- in the keyword
    obtain rfl : c = d := (List.cons.inj hq).1
    obtain ⟨e, p, rfl⟩ := List.exists_cons_of_ne_nil hp
    have hshared : text "shared " = 's' :: text "hared " := by decide
    rw [hshared, List.cons_append, List.cons.injEq] at hd
    exact absurd (heading_eq_none_of_split hd.2 (by decide)) hsome

/-- **There is one heading in a written declaration.**  No heading begins in code behind its first
character. -/
theorem heading_inside {name body p q : Text} {c : Char} (hn : IsNameToken name)
    (hmark : (keywordMark (text "shared")).isIn body = false)
    (h : declared name body none = p ++ c :: q) (hp : p ≠ [])
    (hcode : (Lex.code.run p).isCode = true) : heading p.getLast? (c :: q) = none := by
  by_contra hsome
  obtain ⟨p, t, rfl, rfl, rfl⟩ := inside_name_of_heading hmark h hp hsome
  rw [Lex.run_append] at hcode
  have hblank : Text.allBlank [' '] = true := rfl
  exact hsome (heading_eq_none_iff.2 (named_eq_none_in_name isKeyword_shared (by decide) (by decide)
    hn hcode hblank (text "shared ") (' ' :: (body ++ [';']))))

/-! ## Headings in front of a declaration -/

theorem opening_ne_append {name n ws s r : Text} (hname : IsNameToken name) (hn : IsNameToken n)
    (hws : Text.allBlank ws = true) : opening name ++ s ≠ n ++ (ws ++ '=' :: r) := by
  have hopening : opening name ++ s = text "shared" ++ ([' '] ++ (name ++ (text " = " ++ s))) := by
    have : text "shared " = text "shared" ++ [' '] := by decide
    rw [opening, this]
    simp
  rw [hopening]
  exact isKeyword_shared.ne_append (by decide) (by decide) (by decide) (by simp) (by decide)
    hname hn
    hws

/-- A heading that reaches over a line break into a declaration was opened as a quoted name. -/
theorem run_of_reaching {name x n u t s r : Text} (hname : IsNameToken name)
    (hx : Named (text "shared") '=' x n) (hu : u.getLast? = some '\n') (h : x = u ++ 's' :: t)
    (hs : opening name ++ s = 's' :: (t ++ r)) : Lex.code.run u = .string := by
  obtain ⟨u, rfl⟩ := List.getLast?_eq_some_iff.1 hu
  rw [List.append_assoc, List.singleton_append] at h
  rcases hx.cut_behind_blank h (by decide) (by decide) (by decide) (by decide)
    (by decide) (by decide) (by decide) with h' | ⟨ws, hcut, hws, hn⟩
  · exact h'
  · rw [← List.cons_append, hcut, List.append_assoc, List.append_assoc] at hs
    exact absurd hs (opening_ne_append hname hn hws)

section

variable {name body u : Text} (hname : IsNameToken name) (hclosed : (Lex.code.run u).isCode = true)
  (hu : u.getLast? = some '\n')

include hname hclosed hu

/-- A heading that counts never reaches over a line break into a declaration. -/
theorem stop_le_of_live {o : Occurrence Text} (ho : o ∈ headings (u ++ declared name body none))
    (hlt : o.start < u.length) : o.stop ≤ u.length := by
  obtain ⟨hocc, hcode⟩ := (startsPlain_heading.mem_live_iff isLocal_heading).1 ho
  have hmatch := mem_occurrences isLocal_heading hocc
  have hbounds := Pattern.live_bounds isLocal_heading ho
  obtain ⟨c, hc, hplain, -⟩ := startsPlain_heading.getElem? isLocal_heading hocc
  obtain ⟨-, x, ws, ht, hx, hws, -⟩ := heading_eq_some_iff.1 hmatch
  obtain ⟨v, hv⟩ : ∃ v, declared name body none = 's' :: v := ⟨_, rfl⟩
  rw [List.take_append_of_le_length (Nat.le_of_lt hlt)] at hcode
  rw [List.drop_append_of_le_length (Nat.le_of_lt hlt)] at ht
  rw [List.getElem?_append_left hlt] at hc
  have hlast : (u.drop o.start).getLast? = some '\n' := by
    rw [List.getLast?_drop, if_neg (Nat.not_le.2 hlt), hu]
  generalize hr : (u ++ declared name body none).drop o.stop = r at ht
  rw [hv] at ht
  have hs : 's' ∉ ws := not_mem_of_allBlank hws (by decide)
  rcases append_eq_append_cases ht with ⟨_ | ⟨d, y⟩, hy, hsplit⟩ | ⟨d, y, -, hsplit⟩
  · -- the sign would be the line feed
    rw [hy, List.append_nil] at hx
    rw [hx.getLast?] at hlast
    cases hlast
  · exfalso
    obtain rfl : 's' = d := (List.cons.inj hsplit).1
    have hopening : opening name ++ (body ++ [';']) = 's' :: (y ++ (ws ++ r)) := by
      rw [← List.cons_append, ← hsplit, ← hv]
      simp [declared, attributeLine]
    have hstring := run_of_reaching hname hx hlast hy hopening
    rw [Lex.run_eq_run_drop hc hplain hcode, hstring] at hclosed
    cases hclosed
  · rw [← List.cons_append] at hsplit
    rcases append_eq_append_cases hsplit with ⟨z, -, hz⟩ | ⟨e, z, hz, he⟩
    · have hlen := congrArg List.length hr
      rw [hz, hv] at hlen
      simp only [List.length_drop, List.length_append, List.length_cons] at hlen
      omega
    · -- a blank of the heading would be an `s`
      obtain rfl : 's' = e := (List.cons.inj he).1
      exact absurd (by rw [hz]; simp) hs

/-- **Behind a line break, only the heading of the declaration counts.** -/
theorem start_eq_of_live (hmark : (keywordMark (text "shared")).isIn body = false)
    {o : Occurrence Text} (ho : o ∈ headings (u ++ declared name body none))
    (hstop : u.length < o.stop) : o.start = u.length := by
  obtain ⟨hocc, hcode⟩ := (startsPlain_heading.mem_live_iff isLocal_heading).1 ho
  have hmatch := mem_occurrences isLocal_heading hocc
  obtain ⟨c, q, hcons, -, -⟩ := startsPlain_heading hmatch
  obtain ⟨v, hv⟩ : ∃ v, declared name body none = 's' :: v := ⟨_, rfl⟩
  rcases Nat.lt_trichotomy o.start u.length with hlt | heq | hgt
  · have := stop_le_of_live hname hclosed hu ho hlt
    omega
  · exact heq
  · exfalso
    obtain ⟨i, hi⟩ := Nat.exists_eq_add_of_lt hgt
    rw [hi, Nat.add_assoc, List.drop_length_add_append] at hcons
    have htext : declared name body none = (declared name body none).take (i + 1) ++ c :: q := by
      rw [← hcons, List.take_append_drop]
    have hne : (declared name body none).take (i + 1) ≠ [] := by simp [declared, opening, text]
    rw [hi, Nat.add_assoc, List.take_length_add_append] at hcode
    have hrun : (Lex.code.run ((declared name body none).take (i + 1))).isCode = true := by
      rw [hv, List.take_succ_cons] at hcode ⊢
      rwa [Lex.run_append, Lex.run_cons_of_isPlain (by decide) hclosed] at hcode
    rw [hi, Nat.add_assoc, List.take_length_add_append, List.drop_length_add_append, hcons,
      List.getLast?_append, List.getLast?_eq_some_getLast hne, Option.some_or,
      ← List.getLast?_eq_some_getLast hne, heading_inside hname hmark htext hne hrun] at hmatch
    cases hmatch

end

/-! ## The queries of the new document -/

theorem length_queries (t : Text) : (queries t).length = (headings t).length := by
  have := congrArg List.length (map_name_declarations t)
  rwa [List.length_map, List.length_map, ← List.length_map (f := Declaration.query)] at this

/-- A document whose headings all end in its first part has no more of them than this part. -/
theorem length_headings_append_le {u v : Text} (h : ∀ o ∈ headings (u ++ v), o.stop ≤ u.length) :
    (headings (u ++ v)).length ≤ (headings u).length := by
  have hfront : (occurrences heading (u ++ v)).filter (·.stop ≤ 0 + u.length) <+:
      occurrences heading u :=
    filter_occurrencesFrom_prefix isLocal_heading u v
  have hcode : ∀ o ∈ occurrences heading u,
      isCode (literalSpans (u ++ v)) o.start = isCode (literalSpans u) o.start := by
    intro o ho
    obtain ⟨c, hc, hplain, -⟩ := startsPlain_heading.getElem? isLocal_heading ho
    exact isCode_append_left hc hplain v
  rw [Nat.zero_add] at hfront
  have hall := List.filter_eq_self.2 fun o ho => decide_eq_true (h o ho)
  rw [← hall, headings_eq, Pattern.live, List.filter_filter,
    List.filter_congr fun o _ => Bool.and_comm _ _, ← List.filter_filter,
    List.filter_congr fun o ho => hcode o (hfront.subset ho)]
  exact (hfront.filter _).length_le

/-- So a text that adds queries has a heading that ends in it. -/
theorem exists_heading_of_length_lt {u v : Text}
    (h : (queries u).length < (queries (u ++ v)).length) :
    ∃ o ∈ headings (u ++ v), u.length < o.stop := by
  refine Classical.byContradiction fun hno => ?_
  have hle := length_headings_append_le fun o ho =>
    Nat.le_of_not_lt fun hlt => hno ⟨o, ho, hlt⟩
  rw [← length_queries, ← length_queries] at hle
  exact Nat.not_le.2 h hle

section

variable {name body u : Text} (hw : Writable name body none)
  (hcode : (Lex.code.run u).isCode = true) (hlast : u.getLast? = some '\n')

include hw hcode hlast

/-- Behind a line break, one query more is the one that was written, and its attribute is the text
that `u` ends with. -/
theorem queries_of_length_lt
    (h : (queries u).length < (queries (u ++ declared name body none)).length) :
    Unreached heading u (declared name body none) ∧
      ∃ qs, queries (u ++ declared name body none) = qs ++
        [⟨Name.plain name, body, ((dangling? u).map PlacedAttribute.value).getD []⟩] := by
  obtain ⟨o, ho, hlt⟩ := exists_heading_of_length_lt h
  have hstart := start_eq_of_live hw.name hcode hlast hw.unmarked ho hlt
  have hreach := unreached_of_mem isLocal_heading (List.mem_filter.1 ho).1 hstart
  refine ⟨hreach, ?_⟩
  have hword : startsWord u.getLast? = true := by
    rw [hlast]
    decide
  rw [← leavesNothingOpen_eq] at hcode
  rw [← List.append_nil (declared _ _ _)] at hreach
  obtain ⟨front, d, rest, hd, -, -, hall, -, -⟩ :=
    declarations_behind hw.legible hcode hword hreach
  rw [List.append_nil, hw.declarations_declared, List.cons.injEq] at hd
  obtain ⟨rfl, rfl⟩ := hd
  rw [List.append_nil] at hall
  refine ⟨front.map Declaration.query, ?_⟩
  rw [queries, hall, List.map_nil, List.map_append, List.map_cons, List.map_nil]
  rfl

/-- Behind a line break, nothing else is in the way of a written declaration. -/
theorem seated_nil (hfound : dangling? u = none)
    (hreach : Unreached heading u (declared name body none)) : Seated u name body none [] where
  closed := by simpa [attributeLine, leavesNothingOpen_eq] using hcode
  word := by
    have : startsWord (some '\n') = true := by decide
    simpa [attributeLine, hlast] using this
  unreached := by simpa [attributeLine] using hreach
  found := by simpa [attributeLine] using hfound
  apart := by
    rw [List.append_nil, hw.declarations_declared]
    rfl

end

/-- What is put between a document and a new query. -/
def breakAfter (t : Text) : Text := if t.getLast? = some '\n' then [] else lineBreak

theorem allBlank_breakAfter (t : Text) : Text.allBlank (breakAfter t) = true := by
  rw [breakAfter]
  split <;> rfl

theorem getLast?_append_breakAfter (t : Text) : (t ++ breakAfter t).getLast? = some '\n' := by
  rw [breakAfter]
  split
  · rwa [List.append_nil]
  · rw [List.getLast?_append]
    rfl

theorem isCode_run_append_breakAfter {t : Text} (h : leavesNothingOpen t = true) :
    (Lex.code.run (t ++ breakAfter t)).isCode = true := by
  rw [leavesNothingOpen_eq] at h
  rw [breakAfter]
  split
  · rwa [List.append_nil]
  · rw [lineBreak, Lex.run_append, Lex.run_cons_of_isPlain (by decide) h]
    rfl

theorem upsert_new {d name code : Text} (hnew : declaration? d name = none)
    (hbare : isBareSection d = false) (hname : Text.hasPrefix name ['#', '"'] = false)
    (hlet : isLetBlock (Text.strip code) = true) :
    upsert d name code none none =
      d ++ breakAfter d ++ declared (Name.written name) (Text.strip code) none := by
  have hdecl : declare name code none = declared (Name.written name) (Text.strip code) none := by
    rw [declare_eq, letBlock_of_isLetBlock hlet]
    rfl
  rw [upsert]
  simp only [settleAttributes, Attribute.given?, Name.plain_eq_self hname, hnew, hbare, hdecl,
    withSectionAttribute, breakAfter]
  rfl

/-- **Appending a query disturbs nothing just when** the document does not end with what looks
like an attribute and no heading begun in it, in a comment, ends in the new declaration. -/
theorem queries_upsert_new_iff {d name code : Text} (hnew : declaration? d name = none)
    (hbare : isBareSection d = false) (hclosed : leavesNothingOpen d = true) (hne : name ≠ [])
    (hname : Text.hasPrefix name ['#', '"'] = false) (hlet : isLetBlock (Text.strip code) = true)
    (hbody : leavesNothingOpen (Text.strip code) = true)
    (hmark : (keywordMark (text "shared")).isIn (Text.strip code) = false) :
    queries (upsert d name code none none) = queries d ++ [⟨name, Text.strip code, []⟩] ↔
      dangling? d = none ∧ Unreached heading (d ++ breakAfter d)
        (declared (Name.written name) (Text.strip code) none) := by
  have hw : Writable (Name.written name) (Text.strip code) none :=
    ⟨Name.isNameToken_written hne hname, letBlock_of_isLetBlock hlet ▸ letBlock_isSolid code,
      hbody, hmark, nofun⟩
  have hblank := allBlank_breakAfter d
  have hlast := getLast?_append_breakAfter d
  have hcode := isCode_run_append_breakAfter hclosed
  rw [upsert_new hnew hbare hname hlet, ← dangling?_append_of_allBlank d hblank,
    ← queries_append_of_allBlank d hblank]
  generalize d ++ breakAfter d = u at *
  constructor
  · intro h
    obtain ⟨hreach, qs, hqs⟩ := queries_of_length_lt hw hcode hlast (by rw [h]; simp)
    rw [h] at hqs
    have hattr := congrArg Query.attr (List.cons.inj (List.append_inj' hqs rfl).2).1
    refine ⟨?_, hreach⟩
    cases hfound : dangling? u with
    | none => rfl
    | some a =>
      rw [hfound] at hattr
      exact absurd hattr.symm
        (value_ne_nil_of_attributeAtEnd? (Option.filter_eq_some_iff.1 hfound).1)
  · rintro ⟨hfound, hreach⟩
    have hqueries := (seated_nil hw hcode hlast hfound hreach).queries_eq hw
    rw [List.append_nil, Name.plain_written, Name.plain_eq_self hname] at hqueries
    exact hqueries

/-- A document without a semicolon at its end. -/
def unfinishedDocument : Text :=
  text "section Section1;\r\nshared A = let t = [x = 1] in t"

theorem queries_upsert_new_iff_unfinishedDocument :
    declaration? unfinishedDocument (text "B") = none ∧
      isBareSection unfinishedDocument = false ∧ leavesNothingOpen unfinishedDocument = true ∧
      queries (upsert unfinishedDocument (text "B") (text "let y = A in y") none none) =
        [⟨text "A", text "let t = [x = 1] in t", []⟩, ⟨text "B", text "let y = A in y", []⟩] := by
  have hnew : declaration? unfinishedDocument (text "B") = none := by decide +kernel
  have hbare : isBareSection unfinishedDocument = false := by decide +kernel
  have hclosed : leavesNothingOpen unfinishedDocument = true := by decide +kernel
  have hiff := @queries_upsert_new_iff _ (text "B") (text "let y = A in y") hnew hbare hclosed
    (by decide) (by decide) (by decide +kernel) (by decide +kernel) (by decide +kernel)
  have hqueries : queries unfinishedDocument = [⟨text "A", text "let t = [x = 1] in t", []⟩] := by
    decide +kernel
  have hreach : Unreached heading (unfinishedDocument ++ breakAfter unfinishedDocument)
      (declared (Name.written (text "B")) (Text.strip (text "let y = A in y")) none) := by
    rw [Unreached]
    decide +kernel
  refine ⟨hnew, hbare, hclosed, ?_⟩
  rw [hiff.2 ⟨by decide +kernel, hreach⟩, hqueries]
  decide +kernel

/-- A document that ends in a bracket. -/
def selectingDocument : Text :=
  text "section Section1;\r\nshared A = let t = [x = 1] in t[x]"

/-- What the last query selects becomes the attribute of the new one. -/
theorem queries_upsert_selectingDocument :
    declaration? selectingDocument (text "B") = none ∧
      isBareSection selectingDocument = false ∧ leavesNothingOpen selectingDocument = true ∧
      queries selectingDocument = [⟨text "A", text "let t = [x = 1] in t[x]", []⟩] ∧
      queries (upsert selectingDocument (text "B") (text "let y = A in y") none none) =
        [⟨text "A", text "let t = [x = 1] in t", []⟩,
          ⟨text "B", text "let y = A in y", text "[x]"⟩] := by
  decide +kernel

end Mashup
end Dataflow
