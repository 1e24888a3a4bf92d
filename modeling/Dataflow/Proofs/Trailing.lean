import Dataflow.Proofs.Concatenation

/-!
# Blanks at the end of a document

Blanks behind a document change nothing that is read in it, with one exception that does not
matter: a heading whose body is missing takes the blanks behind it, so that it ends later than
before.
-/

set_option autoImplicit false

namespace Dataflow
namespace Mashup

/-- An occurrence that ends with the text of length `n` also takes the `m` blanks behind it. -/
def Occurrence.extend {α : Type} (n m : Nat) (o : Occurrence α) : Occurrence α :=
  if o.stop = n then { o with stop := n + m } else o

theorem blanks_append_of_allBlank (t : Text) {ws : Text} (hws : Text.allBlank ws = true) :
    blanks (t ++ ws) = if blanks t = [] then [] else blanks t ++ ws := by
  obtain ⟨ws', ht, hws', hsolid⟩ := exists_of_blanks t
  by_cases hnil : blanks t = []
  · rw [if_pos hnil, blanks, List.dropWhile_eq_nil_iff]
    rw [hnil, List.append_nil] at ht
    rw [ht]
    exact List.all_eq_true.1 (by rw [← Text.allBlank, Text.allBlank_append, hws', hws]; rfl)
  · rw [if_neg hnil]
    conv => lhs; rw [ht, List.append_assoc]
    refine blanks_append hws' ?_
    obtain ⟨c, r, hr⟩ := List.exists_cons_of_ne_nil hnil
    rw [hr] at hsolid ⊢
    exact hsolid

/-- What the pattern takes does not end with a blank. -/
theorem Named.getLast? {letters x n : Text} {sign : Char} (h : Named letters sign x n) :
    x.getLast? = some sign := by
  obtain ⟨-, -, -, -, -⟩ := h
  simp

/-- Nothing of what `named` takes lies in blanks at the end. -/
theorem named_append_of_allBlank {letters : Text} {sign : Char} (hs : isSign sign = true)
    (b : Option Char) (t : Text) {ws : Text} (hws : Text.allBlank ws = true) :
    named letters sign b (t ++ ws) = (named letters sign b t).map fun (n, r) => (n, r ++ ws) := by
  cases hn : named letters sign b t with
  | some y =>
    obtain ⟨n, r⟩ := y
    obtain ⟨hb, x, rfl, hx⟩ := (named_eq_some_iff hs).1 hn
    exact (named_eq_some_iff hs).2 ⟨hb, x, List.append_assoc _ _ _, hx⟩
  | none =>
    cases hm : named letters sign b (t ++ ws) with
    | none => rfl
    | some y =>
      obtain ⟨n, r⟩ := y
      obtain ⟨hb, x, ht, hx⟩ := (named_eq_some_iff hs).1 hm
      have hnot : ∀ z, t ≠ x ++ z := by
        intro z hz
        have := (named_eq_some_iff hs).2 ⟨hb, x, hz, hx⟩
        rw [hn] at this
        cases this
      exfalso
      rcases List.append_eq_append_iff.1 ht with ⟨z, rfl, hz⟩ | ⟨z, hz, -⟩
      · -- the sign would be one of the blanks
        rcases List.eq_nil_or_concat z with rfl | ⟨z', c, rfl⟩
        · exact hnot [] (by simp)
        · have hlast := hx.getLast?
          rw [List.concat_eq_append, ← List.append_assoc, List.getLast?_concat,
            Option.some_inj] at hlast
          subst hlast
          have hblank := List.all_eq_true.1 hws c (by rw [hz]; simp)
          simp [isSign, hblank] at hs
      · exact hnot z hz

/-- Blanks behind a text make no difference to the shape of a heading in it. -/
theorem heading_append_of_allBlank (b : Option Char) (t : Text) {ws : Text}
    (hws : Text.allBlank ws = true) :
    heading b (t ++ ws) =
      (heading b t).map fun (n, r) => (n, if r = [] then [] else r ++ ws) := by
  rw [heading_eq_map, heading_eq_map, named_append_of_allBlank (by decide) b t hws,
    Option.map_map, Option.map_map]
  congr 1
  funext ⟨n, r⟩
  simp only [Function.comp_apply, blanks_append_of_allBlank r hws]

theorem occurrencesFrom_of_length_le {α : Type} {p : Pattern α} {b : Option Char}
    {pos skip : Nat} {t : Text} (h : t.length ≤ skip) : occurrencesFrom p b pos skip t = [] := by
  induction t generalizing b pos skip with
  | nil => rfl
  | cons c t ih =>
    cases skip with
    | zero => simp at h
    | succ skip => exact ih (Nat.le_of_succ_le_succ h)

theorem occurrencesFrom_append_of_allBlank (b : Option Char) (pos skip : Nat) {t ws : Text}
    (hskip : skip ≤ t.length) (hws : Text.allBlank ws = true) :
    occurrencesFrom heading b pos skip (t ++ ws) =
      (occurrencesFrom heading b pos skip t).map (.extend (pos + t.length) ws.length) := by
  induction t generalizing b pos skip with
  | nil =>
    have : skip = 0 := Nat.le_zero.1 hskip
    subst this
    have := startsPlain_heading.occurrencesFrom_of_allBlank hws b pos []
    rw [List.append_nil] at this
    rw [List.nil_append, this]
    rfl
  | cons c t ih =>
    have hlen : pos + (c :: t).length = pos + 1 + t.length := by rw [List.length_cons]; omega
    cases skip with
    | succ skip =>
      rw [hlen]
      exact ih _ _ _ (Nat.le_of_succ_le_succ hskip)
    | zero =>
      have hhead := heading_append_of_allBlank b (c :: t) hws
      rw [List.cons_append] at hhead ⊢
      rw [occurrencesFrom, occurrencesFrom, hhead]
      cases hm : heading b (c :: t) with
      | none =>
        rw [hlen]
        exact ih _ _ _ (Nat.zero_le _)
      | some y =>
        obtain ⟨n, r⟩ := y
        have hlt := isLocal_heading.length_lt hm
        simp only [Option.map_some, List.map_cons]
        rw [List.length_cons] at hlt
        by_cases hr : r = []
        · subst hr
          rw [if_pos rfl, occurrencesFrom_of_length_le (by simp),
            occurrencesFrom_of_length_le (by simp)]
          simp [Occurrence.extend, Nat.add_assoc, Nat.add_comm 1]
        · have hpos := List.length_pos_iff.2 hr
          have hsize : (c :: (t ++ ws)).length - (r ++ ws).length = (c :: t).length - r.length := by
            simp only [List.length_cons, List.length_append]
            omega
          have hskip' : (c :: t).length - r.length - 1 ≤ t.length := by
            rw [List.length_cons]
            omega
          have hne : pos + ((c :: t).length - r.length) ≠ pos + (c :: t).length := by
            rw [List.length_cons]
            omega
          rw [if_neg hr, hsize, ih _ _ _ hskip', ← hlen, Occurrence.extend, if_neg hne]

theorem headings_append_of_allBlank (t : Text) {ws : Text} (hws : Text.allBlank ws = true) :
    headings (t ++ ws) = (headings t).map (.extend t.length ws.length) := by
  have hocc := occurrencesFrom_append_of_allBlank none 0 0 (Nat.zero_le t.length) hws
  rw [Nat.zero_add] at hocc
  rw [headings_eq, headings_eq, Pattern.live, Pattern.live, occurrences, hocc, List.filter_map]
  congr 1
  refine List.filter_congr fun o ho => ?_
  obtain ⟨c, hc, hplain, -⟩ := startsPlain_heading.getElem? isLocal_heading ho
  have hstart : (o.extend t.length ws.length).start = o.start := by
    rw [Occurrence.extend]
    split <;> rfl
  rw [Function.comp_apply, hstart, isCode_append_left hc hplain]

/-- An entrance whose heading may take blanks at the end. -/
def Entrance.extend (n m : Nat) (e : Entrance) : Entrance := ⟨e.heading.extend n m, e.attr⟩

theorem Occurrence.extend_of_lt {α : Type} {n m : Nat} {o : Occurrence α} (h : o.stop < n) :
    o.extend n m = o :=
  if_neg (Nat.ne_of_lt h)

@[simp] theorem Occurrence.start_extend {α : Type} (n m : Nat) (o : Occurrence α) :
    (o.extend n m).start = o.start := by
  rw [Occurrence.extend]
  split <;> rfl

@[simp] theorem Entrance.start_extend (n m : Nat) (e : Entrance) :
    (e.extend n m).start = e.start := by
  simp only [Entrance.start, Entrance.extend, Occurrence.start_extend]

theorem entrancesFrom_extend {t : Text} (ws : Text) {previous : Nat} {hs : List (Occurrence Text)}
    (hpair : hs.Pairwise fun o o' => o.stop ≤ o'.start) (hle : ∀ o ∈ hs, o.start < t.length) :
    entrancesFrom (t ++ ws) previous (hs.map (.extend t.length ws.length)) =
      (entrancesFrom t previous hs).map (.extend t.length ws.length) := by
  induction hs generalizing previous with
  | nil => rfl
  | cons h hs ih =>
    obtain ⟨hfirst, hpair⟩ := List.pairwise_cons.1 hpair
    obtain ⟨hh, hhs⟩ := List.forall_mem_cons.1 hle
    have hrest : entrancesFrom (t ++ ws) (h.extend t.length ws.length).stop
        (hs.map (.extend t.length ws.length)) =
          (entrancesFrom t h.stop hs).map (.extend t.length ws.length) := by
      cases hs with
      | nil => rfl
      | cons h' hs =>
        -- a heading with another one behind it does not end with the text
        have hlt := Nat.lt_of_le_of_lt (hfirst h' List.mem_cons_self) (hhs h' List.mem_cons_self)
        rw [Occurrence.extend_of_lt hlt]
        exact ih hpair hhs
    rw [List.map_cons, entrancesFrom, entrancesFrom, List.map_cons, hrest,
      Occurrence.start_extend, attributeBefore?_eq, attributeBefore?_eq,
      List.take_append_of_le_length (Nat.le_of_lt hh)]
    rfl

/-- The query behind a last heading, with and without the blanks at the end. -/
theorem query_declarationOf_extend {t ws : Text} (hws : Text.allBlank ws = true) {e : Entrance}
    (he : e.heading.stop ≤ t.length) :
    (declarationOf (literalSpans (t ++ ws)) (t ++ ws) (e.extend t.length ws.length)
        (t ++ ws).length).query =
      (declarationOf (literalSpans t) t e t.length).query := by
  rcases Nat.lt_or_eq_of_le he with hlt | heq
  · have hstop : bodyStop (literalSpans (t ++ ws)) (t ++ ws) e.heading.stop (t ++ ws).length =
        bodyStop (literalSpans t) t e.heading.stop t.length := by
      rw [List.length_append]
      exact bodyStop_append_of_allBlank he (by rw [List.take_length, hws])
    rw [Entrance.extend, Occurrence.extend_of_lt hlt,
      declarationOf_append_left he (Nat.le_refl _) hstop]
  · -- nothing is left for the body in either text
    have hext : e.heading.extend t.length ws.length =
        ⟨e.heading.start, t.length + ws.length, e.heading.value⟩ :=
      if_pos heq
    have hnil : ∀ (s : Text) (stop : Nat), Text.slice s s.length stop = [] := by
      intro s stop
      rw [Text.slice, List.drop_eq_nil_iff]
      exact List.length_take_le' stop s
    have hlen : t.length + ws.length = (t ++ ws).length := List.length_append.symm
    simp only [declarationOf, Declaration.query, Entrance.extend, hext, heq, hlen, hnil]

theorem map_query_declarationsUpTo_extend {t ws : Text} (hws : Text.allBlank ws = true)
    {es : List Entrance} (hpair : es.Pairwise fun e e' => e.heading.stop ≤ e'.start)
    (hes : ∀ e ∈ es, e.start < t.length ∧ e.heading.stop ≤ t.length) :
    (declarationsUpTo (literalSpans (t ++ ws)) (t ++ ws) (t ++ ws).length
        (es.map (.extend t.length ws.length))).map Declaration.query =
      (declarationsUpTo (literalSpans t) t t.length es).map Declaration.query := by
  induction es with
  | nil => rfl
  | cons e es ih =>
    obtain ⟨hfirst, hpair⟩ := List.pairwise_cons.1 hpair
    obtain ⟨he, hes⟩ := List.forall_mem_cons.1 hes
    have hrest := ih hpair hes
    cases es with
    | nil => exact congrArg (· :: []) (query_declarationOf_extend hws he.2)
    | cons e' es =>
      have he' := (hes e' List.mem_cons_self).1
      have hle := hfirst e' List.mem_cons_self
      have hhead : declarationOf (literalSpans (t ++ ws)) (t ++ ws)
          (e.extend t.length ws.length) (e'.extend t.length ws.length).start =
            declarationOf (literalSpans t) t e e'.start := by
        rw [Entrance.start_extend, Entrance.extend,
          Occurrence.extend_of_lt (Nat.lt_of_le_of_lt hle he')]
        exact declarationOf_append_left hle (Nat.le_of_lt he')
          (bodyStop_append_left (Nat.le_of_lt he') ws _)
      exact List.cons_eq_cons.2 ⟨congrArg Declaration.query hhead, hrest⟩

/-- **Blanks at the end change no query.** -/
theorem queries_append_of_allBlank (t : Text) {ws : Text} (hws : Text.allBlank ws = true) :
    queries (t ++ ws) = queries t := by
  have hstart : ∀ o ∈ headings t, o.start < t.length := by
    intro o ho
    have := Pattern.live_bounds isLocal_heading ho
    omega
  have hpair : (headings t).Pairwise fun o o' => o.stop ≤ o'.start :=
    Pattern.live_pairwise isLocal_heading t
  rw [queries, queries, declarations_eq, declarations_eq, entrances,
    headings_append_of_allBlank t hws, entrancesFrom_extend ws hpair hstart]
  refine map_query_declarationsUpTo_extend hws (entrances_pairwise t) fun e he => ?_
  have := entrances_bounds he
  omega

/-- Nor do they change the attribute that a declaration behind them would be given. -/
theorem dangling?_append_of_allBlank (t : Text) {ws : Text} (hws : Text.allBlank ws = true) :
    dangling? (t ++ ws) = dangling? t := by
  rw [dangling?, dangling?, attributeAtEnd?_append_of_allBlank t hws]
  cases ha : attributeAtEnd? t with
  | none => rfl
  | some a =>
    have hlt := lt_of_bracketAtEnd? (attributeAtEnd?_eq_some_iff.1 ha).1
    have hle := (Text.stripEnd_prefix t).length_le
    have hfrom : bodyFrom (t ++ ws) ≤ a.start ↔ bodyFrom t ≤ a.start := by
      rw [bodyFrom, bodyFrom, lastStop, lastStop, headings_append_of_allBlank t hws,
        List.getLast?_map]
      cases (headings t).getLast? with
      | none => exact Iff.rfl
      | some h =>
        simp only [Option.map_some, Option.getD_some, Occurrence.extend]
        split
        · simp only
          omega
        · exact Iff.rfl
    rw [Option.filter_some, Option.filter_some, decide_eq_decide.2 hfrom]

end Mashup
end Dataflow
