import Dataflow.Proofs.Idempotence
import Dataflow.Proofs.Issuing
import Dataflow.Proofs.Retracing

/-!
# A query is found again under its name

The name of a query passes through three hands.  It is written into the document, by `written`; it
is read there up to the quote that ends it; and `plain` makes the name of it under which the query
is found and its entry is kept.  A name that is not in quoted form yet comes through whatever is in
it.  A name that is in quoted form already is written as it is, and nobody looks whether the quotes
between the outer ones are doubled, or whether there is anything between them at all.  Names for
which it does not matter are `Name.IsWellQuoted`.

When a name is not, no query of the document has the plain name.  The heading that was written is
read otherwise, and a heading that happens to stand between the quotes has a name with fewer
keywords in it than the name that was meant; that is what `countAfter` is for.
-/

set_option autoImplicit false

namespace Dataflow
namespace Mashup

/-! ## Names that can be read -/

/-- A name that is the quoted form of some name if it is in quoted form at all: there is something
between the outer quotes, and all quotes there are doubled. -/
def Name.IsWellQuoted (name : Text) : Prop :=
  isQuoted name = true → ∃ z, z ≠ [] ∧ name = quoted z

theorem Name.isNameToken_written_iff {name : Text} (hne : name ≠ []) :
    IsNameToken (written name) ↔ IsWellQuoted name := by
  constructor
  · intro h hq
    rw [written, hq, Bool.true_or, if_pos rfl] at h
    obtain ⟨x, rfl⟩ := isQuoted_iff.1 hq
    cases h with
    | bare _ hw => exact absurd (hw _ List.mem_cons_self) (by decide)
    | quoted hb hbody =>
      obtain ⟨z, hz⟩ := untilQuote?_eq_double hb
      refine ⟨z, ?_, by rw [hz]; rfl⟩
      rintro rfl
      exact hbody hz
  · intro h
    cases hq : isQuoted name with
    | false => exact isNameToken_written_of_not_isQuoted hne hq
    | true =>
      obtain ⟨z, hz, rfl⟩ := h hq
      rw [written, hq, Bool.true_or, if_pos rfl]
      refine .quoted (untilQuote?_double z) fun hbody => hz ?_
      exact Text.double_eq_nil_iff.1 (by simpa using hbody)

/-! ## Counting keywords -/

/-- At how many places of a text a pattern is found. -/
def Pattern.countAfter {α : Type} (p : Pattern α) : (before : Option Char) → Text → Nat
  | _, [] => 0
  | before, c :: rest => (p before (c :: rest)).isSome.toNat + countAfter p (some c) rest

section

variable {letters : Text}

theorem countAfter_congr {b e : Option Char} (h : startsWord b = startsWord e) (t : Text) :
    (keywordMark letters).countAfter b t = (keywordMark letters).countAfter e t := by
  cases t with
  | nil => rfl
  | cons c t => rw [Pattern.countAfter, Pattern.countAfter, keywordMark_congr h]

theorem countAfter_eq_zero {b : Option Char} {t : Text}
    (h : (keywordMark letters).foundAfter b t = false) :
    (keywordMark letters).countAfter b t = 0 := by
  induction t generalizing b with
  | nil => rfl
  | cons c t ih =>
    rw [Pattern.foundAfter_cons, Bool.or_eq_false_iff] at h
    rw [Pattern.countAfter, h.1, ih h.2]
    rfl

/-- A keyword stays one whatever follows. -/
theorem isSome_keywordMark_append {b : Option Char} {t : Text}
    (h : (keywordMark letters b t).isSome = true) (v : Text) :
    (keywordMark letters b (t ++ v)).isSome = true := by
  obtain ⟨hb, k, d, r, rfl, hk, hd⟩ := keywordMark_isSome_iff.1 h
  exact keywordMark_isSome_iff.2 ⟨hb, k, d, r ++ v, by simp, hk, hd⟩

theorem isSome_keywordMark_bar {c : Char} (hc : barsMark letters c = true) (b : Option Char)
    (t v : Text) :
    (keywordMark letters b (t ++ c :: v)).isSome = (keywordMark letters b t).isSome :=
  Bool.eq_iff_iff.2
    ⟨fun h => (keywordMark_of_barsMark hc v b t h).2, fun h => isSome_keywordMark_append h _⟩

theorem keywordMark_nil (b : Option Char) : (keywordMark letters b []).isSome = false := by
  cases h : (keywordMark letters b []).isSome with
  | false => rfl
  | true =>
    obtain ⟨-, k, d, r, ht, -⟩ := keywordMark_isSome_iff.1 h
    exact absurd ht (by simp)

/-- A text has no fewer keywords than what it begins with. -/
theorem countAfter_le_append (letters : Text) (b : Option Char) (u v : Text) :
    (keywordMark letters).countAfter b u ≤ (keywordMark letters).countAfter b (u ++ v) := by
  induction u generalizing b with
  | nil => exact Nat.zero_le _
  | cons c u ih =>
    rw [List.cons_append, Pattern.countAfter, Pattern.countAfter]
    refine Nat.add_le_add ?_ (ih (some c))
    cases h : (keywordMark letters b (c :: u)).isSome with
    | false => exact Nat.zero_le _
    | true =>
      exact Nat.le_of_eq (by rw [← List.cons_append, isSome_keywordMark_append h v])

/-- A text has no fewer keywords than what it ends with. -/
theorem countAfter_le_of_append (letters : Text) (b : Option Char) (u v : Text) :
    (keywordMark letters).countAfter (u.getLast?.or b) v ≤
      (keywordMark letters).countAfter b (u ++ v) := by
  induction u generalizing b with
  | nil => exact Nat.le_refl _
  | cons c u ih =>
    rw [getLast?_cons_or, List.cons_append, Pattern.countAfter]
    exact Nat.le_trans (ih (some c)) (Nat.le_add_left _ _)

/-- At a character that belongs to no keyword a text can be cut. -/
theorem countAfter_bar {c : Char} (hc : barsMark letters c = true) (b : Option Char) (u v : Text) :
    (keywordMark letters).countAfter b (u ++ c :: v) =
      (keywordMark letters).countAfter b u + (keywordMark letters).countAfter (some c) v := by
  induction u generalizing b with
  | nil =>
    have hnone := isSome_keywordMark_bar hc b [] v
    rw [keywordMark_nil, List.nil_append] at hnone
    rw [List.nil_append, Pattern.countAfter, Pattern.countAfter, hnone]
    rfl
  | cons d u ih =>
    have hsame := isSome_keywordMark_bar hc b (d :: u) v
    rw [List.cons_append] at hsame ⊢
    rw [Pattern.countAfter, Pattern.countAfter, hsame, ih, Nat.add_assoc]

end

/-! ## The keywords of a name -/

/-- What stands in front of the first quote is not changed by writing doubled quotes once. -/
theorem Text.single_append_of_not_mem {c : Char} {u : Text} (h : c ∉ u) (v : Text) :
    Text.single c (u ++ v) = u ++ Text.single c v := by
  have hdouble : Text.double c u = u := by
    induction u with
    | nil => rfl
    | cons x u ih =>
      rw [List.mem_cons, not_or] at h
      rw [Text.double_cons_of_ne (Ne.symm h.1), ih h.2]
  have happend := Text.single_double_append c u v
  rwa [hdouble] at happend

theorem Text.exists_single_cons (c : Char) (v : Text) : ∃ w, Text.single c (c :: v) = c :: w := by
  cases v with
  | nil => exact ⟨[], rfl⟩
  | cons y v =>
    rw [Text.single]
    split
    · exact ⟨_, rfl⟩
    · exact ⟨_, rfl⟩

section

variable {letters : Text} (hquote : barsMark letters '"' = true)

include hquote

theorem isSome_keywordMark_single (b : Option Char) (t : Text) :
    (keywordMark letters b (Text.single '"' t)).isSome = (keywordMark letters b t).isSome := by
  by_cases h : '"' ∈ t
  · obtain ⟨u, v, rfl, hu⟩ := List.eq_append_cons_of_mem h
    obtain ⟨w, hw⟩ := Text.exists_single_cons '"' v
    rw [Text.single_append_of_not_mem hu, hw, isSome_keywordMark_bar hquote,
      isSome_keywordMark_bar hquote]
  · have hnil : Text.single '"' [] = [] := rfl
    have hsame := Text.single_append_of_not_mem h []
    rw [hnil, List.append_nil] at hsame
    rw [hsame]

/-- Writing doubled quotes once makes no keyword and takes none away. -/
theorem countAfter_single (b : Option Char) (t : Text) :
    (keywordMark letters).countAfter b (Text.single '"' t) =
      (keywordMark letters).countAfter b t := by
  have hcut : ∀ b v, (keywordMark letters).countAfter b ('"' :: v) =
      (keywordMark letters).countAfter (some '"') v := fun b v => by
    rw [← List.nil_append ('"' :: v), countAfter_bar hquote, Pattern.countAfter, Nat.zero_add]
  fun_induction Text.single '"' t generalizing b with
  | case1 x y rest hc ih =>
    obtain ⟨rfl, rfl⟩ := hc
    rw [hcut, hcut, hcut, ih]
  | case2 x y rest hc ih =>
    have hsame := isSome_keywordMark_single hquote b (x :: y :: rest)
    rw [Text.single, if_neg hc] at hsame
    rw [Pattern.countAfter, ih, hsame, ← Pattern.countAfter]
  | case3 => rfl

/-- A name has as many keywords in it when it is written in quoted form. -/
theorem countAfter_plain (hsign : barsMark letters '#' = true) (name : Text) :
    (keywordMark letters).countAfter none (Name.plain name) =
      (keywordMark letters).countAfter none name := by
  cases hq : Name.isQuoted name with
  | false =>
    rw [Name.plain, hq]
    rfl
  | true =>
    obtain ⟨x, rfl⟩ := Name.isQuoted_iff.1 hq
    have hhead : (keywordMark letters).countAfter none ('#' :: '"' :: (x ++ ['"'])) =
        (keywordMark letters).countAfter none (x ++ ['"']) := by
      have hsharp := countAfter_bar hsign none [] ('"' :: (x ++ ['"']))
      have hopen := countAfter_bar hquote (some '#') [] (x ++ ['"'])
      rw [List.nil_append, Pattern.countAfter, Nat.zero_add] at hsharp hopen
      rw [hsharp, hopen]
      exact countAfter_congr (by decide) _
    rw [Name.plain_cons_cons, countAfter_single hquote, hhead, countAfter_bar hquote]
    rfl

end

/-! ## Headings in a name -/

/-- The name of a heading stands behind a keyword, and so has fewer in it than the heading. -/
theorem countAfter_lt_of_heading {t n r : Text} {b : Option Char}
    (h : heading b t = some (n, r)) :
    (keywordMark (text "shared")).countAfter none n <
      (keywordMark (text "shared")).countAfter b t := by
  have hsome : (keywordMark (text "shared") b t).isSome = true :=
    keywordMark_of_heading _ _ (by rw [h]; rfl)
  obtain ⟨-, x, ws, rfl, ⟨hk, hne, hws, -, -⟩, -, -⟩ := heading_eq_some_iff.1 h
  rename_i k blanks blanks'
  obtain ⟨c, k, rfl⟩ : ∃ c k', k = c :: k' := by
    cases k with
    | nil => cases hk
    | cons c k => exact ⟨c, k, rfl⟩
  -- in front of the name stands a blank, so its keywords are the same as if nothing did
  have hlast : startsWord (((k ++ blanks).getLast?).or (some c)) = startsWord none := by
    obtain ⟨e, he⟩ : ∃ e, blanks.getLast? = some e := ⟨_, List.getLast?_eq_some_getLast hne⟩
    have hblank : isBlank e = true := List.all_eq_true.1 hws e (List.mem_of_getLast? he)
    rw [List.getLast?_append, he]
    simp [startsWord, isWord_of_isBlank hblank]
  have htext : c :: k ++ (blanks ++ (n ++ (blanks' ++ ['=']))) ++ (ws ++ r) =
      c :: (k ++ blanks ++ (n ++ (blanks' ++ '=' :: (ws ++ r)))) := by
    simp
  rw [htext] at hsome ⊢
  calc (keywordMark (text "shared")).countAfter none n
    _ ≤ (keywordMark (text "shared")).countAfter none (n ++ (blanks' ++ '=' :: (ws ++ r))) :=
        countAfter_le_append _ none n _
    _ = (keywordMark (text "shared")).countAfter ((k ++ blanks).getLast?.or (some c))
          (n ++ (blanks' ++ '=' :: (ws ++ r))) := (countAfter_congr hlast _).symm
    _ ≤ (keywordMark (text "shared")).countAfter (some c)
          (k ++ blanks ++ (n ++ (blanks' ++ '=' :: (ws ++ r)))) :=
        countAfter_le_of_append _ (some c) (k ++ blanks) _
    _ < _ := by
        rw [Pattern.countAfter, hsome, Bool.toNat_true]
        exact Nat.lt_add_of_pos_left Nat.one_pos

/-- Behind a quoted name there are no keywords but those of the body. -/
theorem countAfter_behind_name {name body : Text} (hquoted : Name.isQuoted name = true)
    (hmark : (keywordMark (text "shared")).isIn body = false) :
    (keywordMark (text "shared")).countAfter none (name ++ (text " = " ++ (body ++ [';']))) =
      (keywordMark (text "shared")).countAfter none name := by
  have hquote : barsMark (text "shared") '"' = true := by decide
  have hbody : (keywordMark (text "shared")).countAfter (some '=') (' ' :: body) = 0 := by
    have hblank : (keywordMark (text "shared") (some '=') (' ' :: body)).isSome = false := rfl
    rw [Pattern.countAfter, hblank, countAfter_congr (e := none) (by decide),
      countAfter_eq_zero hmark]
    rfl
  have hbehind : (keywordMark (text "shared")).countAfter (some '"')
      (text " = " ++ (body ++ [';'])) = 0 := by
    have htext : text " = " ++ (body ++ [';']) = [' '] ++ '=' :: (' ' :: body ++ [';']) := by
      simp [text]
    rw [htext, countAfter_bar (by decide), countAfter_bar (by decide), hbody]
    rfl
  obtain ⟨x, rfl⟩ := Name.isQuoted_iff.1 hquoted
  have hlast : '#' :: '"' :: (x ++ ['"']) = '#' :: '"' :: x ++ ['"'] := rfl
  rw [hlast, List.append_assoc, List.singleton_append, countAfter_bar hquote,
    countAfter_bar hquote, hbehind]
  rfl

/-- **A heading that begins in a quoted name has another name.**  It has fewer keywords in it, for
it stands behind one of them, and there is none in the body. -/
theorem plain_ne_of_heading_in_name {p t body n r : Text} {c : Char} {b : Option Char}
    (hquoted : Name.isQuoted (p ++ c :: t) = true)
    (hmark : (keywordMark (text "shared")).isIn body = false)
    (hb : startsWord b = startsWord p.getLast?)
    (h : heading b (c :: (t ++ (text " = " ++ (body ++ [';'])))) = some (n, r)) :
    Name.plain n ≠ Name.plain (p ++ c :: t) := by
  intro heq
  have hcount := congrArg ((keywordMark (text "shared")).countAfter none) heq
  rw [countAfter_plain (by decide) (by decide), countAfter_plain (by decide) (by decide)] at hcount
  have hfewer := countAfter_lt_of_heading h
  have hfront := countAfter_le_of_append (text "shared") none p
    (c :: (t ++ (text " = " ++ (body ++ [';']))))
  have hwhole := countAfter_behind_name hquoted hmark
  rw [Option.or_none, ← countAfter_congr hb] at hfront
  rw [List.append_assoc, List.cons_append] at hwhole
  omega

/-! ## The only query of a document -/

/-- What stands in front of the first query of a new document. -/
def newFront : Text := defaultHeader ++ lineBreak

theorem isPassedOver_newFront : IsPassedOver newFront :=
  (sealed_defaultHeader.isPassedOver (by decide)).append
    ((sealed_of_allBlank allBlank_lineBreak).isPassedOver (by decide))

/-- The document of one query, whatever its name. -/
theorem upsert_nil_eq (name code : Text) :
    upsert [] name code none none =
      newFront ++ declared (Name.written name) (letBlock code) none := by
  have hnone : declaration? [] (Name.plain name) = none := rfl
  have hbare : isBareSection [] = true := rfl
  have hempty : Text.strip [] = [] := rfl
  rw [upsert, settleAttributes]
  simp only [Attribute.given?, hnone, hbare, newSection, hempty, declare_eq]
  simp [newFront]

/-- In a written declaration whose name is quoted, only the heading that was written has the name
that was meant. -/
theorem start_eq_zero_of_plain_eq {name body : Text} {o : Occurrence Text}
    (hquoted : Name.isQuoted name = true)
    (hmark : (keywordMark (text "shared")).isIn body = false)
    (ho : o ∈ occurrences heading (declared name body none))
    (hvalue : Name.plain o.value = Name.plain name) : o.start = 0 := by
  by_contra hstart
  have hmatch := mem_occurrences isLocal_heading ho
  obtain ⟨c, rest, hcons, -, -⟩ := startsPlain_heading hmatch
  have hsplit : declared name body none = (declared name body none).take o.start ++ c :: rest := by
    rw [← hcons, List.take_append_drop]
  have hfront : (declared name body none).take o.start ≠ [] := by
    simp [declared, opening, text, hstart]
  rw [hcons] at hmatch
  obtain ⟨p, t, hp, rfl, rfl⟩ :=
    inside_name_of_heading hmark hsplit hfront (by rw [hmatch]; exact Option.some_ne_none _)
  refine plain_ne_of_heading_in_name hquoted hmark ?_ hmatch hvalue
  rw [hp, List.getLast?_append]
  cases p.getLast? with
  | none => decide
  | some e => rfl

/-- A query that is read under the name that was meant was written so that it can be read. -/
theorem isNameToken_of_name_eq {name body : Text} {q : Query} (hne : name ≠ [])
    (hmark : (keywordMark (text "shared")).isIn body = false)
    (hq : q ∈ queries (newFront ++ declared (Name.written name) body none))
    (hname : q.name = Name.plain name) : IsNameToken (Name.written name) := by
  cases hquoted : Name.isQuoted name with
  | false => exact Name.isNameToken_written_of_not_isQuoted hne hquoted
  | true =>
    have hwritten : Name.written name = name := by
      rw [Name.written, hquoted, Bool.true_or, if_pos rfl]
    obtain ⟨d, hd, rfl⟩ := List.mem_map.1 hq
    obtain ⟨o, ho, hvalue⟩ := exists_heading_of_mem_declarations hd
    have hocc := (List.mem_filter.1 ho).1
    rw [isPassedOver_newFront] at hocc
    obtain ⟨o', hmem, rfl⟩ := List.mem_map.1 hocc
    rw [hwritten] at hmem
    have hzero := start_eq_zero_of_plain_eq hquoted hmark hmem (hvalue.trans hname)
    have hfirst : o'.shift newFront.length ∈
        headings (newFront ++ (declared (Name.written name) body none ++ [])) := by
      rwa [List.append_nil]
    refine isNameToken_of_heading hfirst ?_ (hvalue.trans hname)
    rw [Occurrence.shift, hzero, Nat.add_zero]

section

variable {name code : Text} (hne : name ≠ []) (hlet : isLetBlock (Text.strip code) = true)
  (hmark : (keywordMark (text "shared")).isIn code = false)

include hne hlet hmark

/-- A query with a name that can be read is the only one of its document. -/
theorem queries_upsert_nil (hname : Name.IsWellQuoted name) :
    ∃ q, queries (upsert [] name code none none) = [q] ∧ q.name = Name.plain name ∧
      (leavesNothingOpen (Text.strip code) = true →
        q = ⟨Name.plain name, Text.strip code, []⟩) := by
  have hbody := isIn_strip hmark
  rw [← letBlock_of_isLetBlock hlet] at hbody
  have hl : Legible (Name.written name) (letBlock code) :=
    ⟨(Name.isNameToken_written_iff hne).2 hname, letBlock_isSolid code⟩
  obtain ⟨q, hq, hqname, -⟩ :=
    isPassedOver_newFront.queries_declared (by decide +kernel) (by decide) hl hbody
  rw [Name.plain_written] at hqname
  rw [upsert_nil_eq]
  refine ⟨q, hq, hqname, fun hclosed => ?_⟩
  rw [← letBlock_of_isLetBlock hlet] at hclosed ⊢
  have hw : Writable (Name.written name) (letBlock code) none :=
    ⟨hl.name, hl.solid, hclosed, hbody, nofun⟩
  have hseated := seated_nil (u := newFront) hw (by decide) (by decide) (by decide +kernel)
    (isPassedOver_newFront.unreached _)
  have hqueries := hseated.queries_eq hw
  have hfront : queries newFront = [] := by decide +kernel
  rw [List.append_nil, hq, hfront, List.nil_append, List.cons.injEq, Name.plain_written] at hqueries
  exact hqueries.1

theorem isWellQuoted_of_mem_queries {q : Query} (hq : q ∈ queries (upsert [] name code none none))
    (hname : q.name = Name.plain name) : Name.IsWellQuoted name := by
  have hbody := isIn_strip hmark
  rw [← letBlock_of_isLetBlock hlet] at hbody
  rw [upsert_nil_eq] at hq
  exact (Name.isNameToken_written_iff hne).1 (isNameToken_of_name_eq hne hbody hq hname)

/-- **A query is found again under the name of its entry just when** its name is well quoted. -/
theorem addQuery_found_iff (defaults : Defaults) {ids : IdSupply} (hids : ids.IsProper) :
    ∃ r ids', Definition.empty.addQuery (Text.widen name) (Text.widen code) none none defaults
        ids = (.ok r, ids') ∧
      r.document = .ok (upsert [] name code none none) ∧
      (∀ key, key ∈ r.registered ↔ key = Text.widen (Name.plain name)) ∧
      (Name.IsWellQuoted name →
        ∃ q, queries (upsert [] name code none none) = [q] ∧ q.name = Name.plain name ∧
          (leavesNothingOpen (Text.strip code) = true →
            q = ⟨Name.plain name, Text.strip code, []⟩)) ∧
      (¬Name.IsWellQuoted name →
        ∀ q ∈ queries (upsert [] name code none none), q.name ≠ Name.plain name) := by
  obtain ⟨r, ids', hadd, hdocument, -⟩ := Definition.exists_addQuery (d := .empty) rfl
    Metadata.isOrderly_nil hids name code none none defaults
  obtain ⟨-, -, -, -, -, hkeys⟩ := Definition.addQuery_eq_ok hadd
  refine ⟨r, ids', hadd, hdocument, fun key => ?_, queries_upsert_nil hne hlet hmark,
    fun hnot q hq hname => hnot (isWellQuoted_of_mem_queries hne hlet hmark hq hname)⟩
  rw [hkeys, Wide.plain_widen]
  constructor
  · rintro (hmem | heq | htarget)
    · cases hmem
    · exact heq
    · cases htarget
  · exact fun heq => .inr (.inl heq)

end

/-- A name in quoted form with quotes and a line break in it. -/
def quotedName : Text := text "#\"Net \"\"sales\"\"\n2024 // é\""

theorem addQuery_found_iff_quotedName :
    (quotedName ≠ [] ∧ isLetBlock (Text.strip (text " let x = 1 in x")) = true ∧
      (keywordMark (text "shared")).isIn (text " let x = 1 in x") = false ∧
      (IdSupply.random 7).IsProper) ∧
    ∃ r ids', Definition.empty.addQuery (Text.widen quotedName) (wide " let x = 1 in x") none none
        .standard (.random 7) = (.ok r, ids') ∧
      (∀ key, key ∈ r.registered ↔ key = Text.widen (text "Net \"sales\"\n2024 // é")) ∧
      queries (upsert [] quotedName (text " let x = 1 in x") none none) =
        [⟨text "Net \"sales\"\n2024 // é", text "let x = 1 in x", []⟩] := by
  have hne : quotedName ≠ [] := by decide
  have hlet : isLetBlock (Text.strip (text " let x = 1 in x")) = true := by decide +kernel
  have hmark : (keywordMark (text "shared")).isIn (text " let x = 1 in x") = false := by
    decide +kernel
  have hids := IdSupply.isProper_random 7
  have hname : Name.IsWellQuoted quotedName := fun _ =>
    ⟨text "Net \"sales\"\n2024 // é", by decide, by decide +kernel⟩
  have hplain : Name.plain quotedName = text "Net \"sales\"\n2024 // é" := by decide +kernel
  have hstrip : Text.strip (text " let x = 1 in x") = text "let x = 1 in x" := by decide +kernel
  obtain ⟨r, ids', hadd, -, hkeys, hfound, -⟩ :=
    addQuery_found_iff hne hlet hmark .standard hids
  obtain ⟨q, hq, -, hquery⟩ := hfound hname
  rw [hplain] at hkeys
  rw [hquery (by decide +kernel), hplain, hstrip] at hq
  exact ⟨⟨hne, hlet, hmark, hids⟩, r, ids', hadd, hkeys, hq⟩

/-- A name in quoted form with a quote in it that is not doubled: nothing is found. -/
theorem queries_upsert_unpairedQuote :
    Text.allBlank (text "#\"a\"b\"") = false ∧
      isLetBlock (Text.strip (text "let x = 1 in x")) = true ∧
      leavesNothingOpen (text "let x = 1 in x") = true ∧
      (keywordMark (text "shared")).isIn (text "let x = 1 in x") = false ∧
      queries (upsert [] (text "#\"a\"b\"") (text "let x = 1 in x") none none) = [] ∧
      Name.plain (text "#\"a\"b\"") = text "a\"b" := by
  decide +kernel

end Mashup
end Dataflow
