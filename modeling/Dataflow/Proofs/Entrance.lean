import Dataflow.Proofs.Attribute
import Dataflow.Proofs.Heading

/-!
# Declarations in order

The declarations of a document are cut out at the headings that count and at the attributes in front
of them, its `entrances`.  Here is what holds of these cuts for every document.  A heading ends
before the next entrance begins, so bodies have room; a body ends between its beginning and its
boundary; and so declarations follow one another without overlap (`declarations_pairwise`), each
inside the text (`mem_declarations_bounds`).

Which occurrences count does not depend on what is looked for, so `Pattern.live` is defined for any
pattern and used for section headers as well.
-/

set_option autoImplicit false

namespace Dataflow
namespace Mashup

/-! ## Occurrences that count -/

namespace Pattern

variable {α : Type}

/-- The occurrences of a pattern that begin outside literals and comments. -/
def live (p : Pattern α) (t : Text) : List (Occurrence α) :=
  (occurrences p t).filter fun o => isCode (literalSpans t) o.start

/-- Matches begin with a character that is neither blank nor of any concern to the reader of
literals. -/
def StartsPlain (p : Pattern α) : Prop :=
  ∀ {b : Option Char} {t r : Text} {x : α}, p b t = some (x, r) →
    ∃ c rest, t = c :: rest ∧ Lex.isPlain c = true ∧ isBlank c = false

theorem StartsPlain.getElem? {p : Pattern α} (hp : p.IsLocal) (hs : p.StartsPlain) {t : Text}
    {o : Occurrence α} (ho : o ∈ occurrences p t) :
    ∃ c, t[o.start]? = some c ∧ Lex.isPlain c = true ∧ isBlank c = false := by
  obtain ⟨c, rest, ht, hc⟩ := hs (mem_occurrences hp ho)
  refine ⟨c, ?_, hc⟩
  have := congrArg List.head? ht
  rwa [List.head?_drop, List.head?_cons] at this

/-- Blanks are passed over. -/
theorem StartsPlain.occurrencesFrom_of_allBlank {p : Pattern α} (hs : p.StartsPlain)
    {ws : Text} (hws : Text.allBlank ws = true) (b : Option Char) (pos : Nat) (v : Text) :
    occurrencesFrom p b pos 0 (ws ++ v) =
      occurrencesFrom p (ws.getLast?.or b) (pos + ws.length) 0 v := by
  induction ws generalizing b pos with
  | nil => simp
  | cons c ws ih =>
    rw [Text.allBlank, List.all_cons, Bool.and_eq_true] at hws
    have hn : p b (c :: (ws ++ v)) = none := by
      cases hm : p b (c :: (ws ++ v)) with
      | none => rfl
      | some y =>
        obtain ⟨d, rest, heq, -, hd⟩ := hs hm
        rw [← (List.cons.inj heq).1, hws.1] at hd
        cases hd
    have hlen : pos + (c :: ws).length = pos + 1 + ws.length := by
      rw [List.length_cons]
      omega
    rw [List.cons_append, occurrencesFrom, hn, getLast?_cons_or, hlen]
    exact ih hws.2 _ _

/-- An occurrence counts where the automaton reaches it in code. -/
theorem StartsPlain.mem_live_iff {p : Pattern α} (hp : p.IsLocal) (hs : p.StartsPlain) {t : Text}
    {o : Occurrence α} :
    o ∈ p.live t ↔ o ∈ occurrences p t ∧ (Lex.code.run (t.take o.start)).isCode = true := by
  rw [live, List.mem_filter]
  refine and_congr_right fun ho => ?_
  obtain ⟨c, hc, hplain, -⟩ := hs.getElem? hp ho
  rw [isCode_literalSpans hc hplain]

theorem live_bounds {p : Pattern α} (hp : p.IsLocal) {t : Text} {o : Occurrence α}
    (h : o ∈ p.live t) : o.start < o.stop ∧ o.stop ≤ t.length := by
  have := occurrencesFrom_bounds hp o (List.mem_filter.1 h).1
  omega

theorem live_pairwise {p : Pattern α} (hp : p.IsLocal) (t : Text) :
    (p.live t).Pairwise fun o o' => o.stop ≤ o'.start :=
  (occurrencesFrom_pairwise hp).filter _

end Pattern

theorem startsPlain_heading : heading.StartsPlain := by
  intro b t r x h
  obtain ⟨-, x, ws, rfl, ⟨hk, -⟩, -⟩ := heading_eq_some_iff.1 h
  simp only [List.append_assoc]
  exact keyword?_head (by decide) (keyword?_append hk _)

theorem startsPlain_sectionHeader : sectionHeader.StartsPlain := by
  intro b t r x h
  obtain ⟨-, x, n, rfl, ⟨hk, -⟩⟩ := sectionHeader_eq_some_iff.1 h
  simp only [List.append_assoc]
  exact keyword?_head (by decide) (keyword?_append hk _)

theorem headings_eq (t : Text) : headings t = heading.live t := rfl

theorem sectionHeader?_eq (t : Text) :
    sectionHeader? t = (sectionHeader.live t).head?.map Occurrence.start := by
  rw [sectionHeader?, Pattern.live, List.head?_filter]

/-! ## Entrances -/

/-- The headings of a document with their attributes. -/
def entrances (t : Text) : List Entrance := entrancesFrom t 0 (headings t)

/-- The offset behind the last of some headings, or `previous` when there is none. -/
def lastStop (previous : Nat) (hs : List (Occurrence Text)) : Nat :=
  (hs.getLast?.map Occurrence.stop).getD previous

theorem entrancesFrom_append (t : Text) (previous : Nat) (hs hs' : List (Occurrence Text)) :
    entrancesFrom t previous (hs ++ hs') =
      entrancesFrom t previous hs ++ entrancesFrom t (lastStop previous hs) hs' := by
  induction hs generalizing previous with
  | nil => rfl
  | cons h hs ih =>
    have hlast : lastStop previous (h :: hs) = lastStop h.stop hs := by
      rw [lastStop, lastStop, List.getLast?_cons]
      cases hs.getLast? <;> rfl
    rw [List.cons_append, entrancesFrom, entrancesFrom, ih, hlast, List.cons_append]

theorem map_heading_entrancesFrom (t : Text) (previous : Nat) (hs : List (Occurrence Text)) :
    (entrancesFrom t previous hs).map Entrance.heading = hs := by
  induction hs generalizing previous with
  | nil => rfl
  | cons h hs ih => rw [entrancesFrom, List.map_cons, ih]

theorem map_heading_entrances (t : Text) : (entrances t).map Entrance.heading = headings t :=
  map_heading_entrancesFrom t 0 (headings t)

theorem start_lt_of_attributeBefore? {t : Text} {i : Nat} {a : PlacedAttribute}
    (h : attributeBefore? t i = some a) : a.start < i := by
  rw [attributeBefore?_eq, attributeAtEnd?_eq_some_iff] at h
  have hlt := lt_of_bracketAtEnd? h.1
  have hle := (Text.stripEnd_prefix (t.take i)).length_le
  have := List.length_take_le i t
  omega

/-- Entrances keep the order of their headings. -/
theorem entrancesFrom_bounds {t : Text} {previous : Nat} {hs : List (Occurrence Text)}
    (hpair : hs.Pairwise fun o o' => o.stop ≤ o'.start) (hhead : ∀ o ∈ hs, previous ≤ o.start)
    (hne : ∀ o ∈ hs, o.start < o.stop) :
    ∀ e ∈ entrancesFrom t previous hs, previous ≤ e.start ∧ e.start ≤ e.heading.start := by
  induction hs generalizing previous with
  | nil => simp [entrancesFrom]
  | cons h hs ih =>
    obtain ⟨hfirst, hpair⟩ := List.pairwise_cons.1 hpair
    intro e he
    rw [entrancesFrom] at he
    rcases List.mem_cons.1 he with rfl | he
    · have hprev := hhead h List.mem_cons_self
      simp only [Entrance.start]
      split
      · rename_i a ha
        rw [Option.filter_eq_some_iff, decide_eq_true_eq] at ha
        exact ⟨ha.2, Nat.le_of_lt (start_lt_of_attributeBefore? ha.1)⟩
      · exact ⟨hprev, Nat.le_refl _⟩
    · have := ih hpair hfirst (fun o ho => hne o (List.mem_cons_of_mem _ ho)) e he
      have h₁ := hhead h List.mem_cons_self
      have h₂ := hne h List.mem_cons_self
      omega

theorem entrancesFrom_pairwise {t : Text} {previous : Nat} {hs : List (Occurrence Text)}
    (hpair : hs.Pairwise fun o o' => o.stop ≤ o'.start) (hne : ∀ o ∈ hs, o.start < o.stop) :
    (entrancesFrom t previous hs).Pairwise fun e e' => e.heading.stop ≤ e'.start := by
  induction hs generalizing previous with
  | nil => simp [entrancesFrom]
  | cons h hs ih =>
    obtain ⟨hfirst, hpair⟩ := List.pairwise_cons.1 hpair
    have hne' := fun o ho => hne o (List.mem_cons_of_mem _ ho)
    rw [entrancesFrom]
    exact List.pairwise_cons.2
      ⟨fun e he => (entrancesFrom_bounds hpair hfirst hne' e he).1, ih hpair hne'⟩

theorem entrances_bounds {t : Text} {e : Entrance} (he : e ∈ entrances t) :
    e.start ≤ e.heading.start ∧ e.heading.start < e.heading.stop ∧
      e.heading.stop ≤ t.length := by
  have hmem : e.heading ∈ headings t := by
    rw [← map_heading_entrances]
    exact List.mem_map_of_mem he
  have h := Pattern.live_bounds isLocal_heading hmem
  have hle := entrancesFrom_bounds (Pattern.live_pairwise isLocal_heading t)
    (fun _ _ => Nat.zero_le _) (fun o ho => (Pattern.live_bounds isLocal_heading ho).1) e he
  exact ⟨hle.2, h⟩

theorem attributeBefore?_of_mem_entrancesFrom {t : Text} {previous : Nat}
    {hs : List (Occurrence Text)} {e : Entrance} (he : e ∈ entrancesFrom t previous hs)
    {a : PlacedAttribute} (ha : e.attr = some a) :
    attributeBefore? t e.heading.start = some a := by
  induction hs generalizing previous with
  | nil => simp [entrancesFrom] at he
  | cons h hs ih =>
    rw [entrancesFrom] at he
    rcases List.mem_cons.1 he with rfl | he
    · exact (Option.filter_eq_some_iff.1 ha).1
    · exact ih he

theorem entrances_pairwise (t : Text) :
    (entrances t).Pairwise fun e e' => e.heading.stop ≤ e'.start :=
  entrancesFrom_pairwise (Pattern.live_pairwise isLocal_heading t) fun _ ho =>
    (Pattern.live_bounds isLocal_heading ho).1

/-! ## Bodies -/

theorem lastSemicolonFrom_bounds {spans : List Span} {pos i : Nat} {found : Option Nat}
    {body : Text} (h : lastSemicolonFrom spans pos found body = some i) :
    found = some i ∨ (pos ≤ i ∧ i < pos + body.length) := by
  induction body generalizing pos found with
  | nil => exact .inl h
  | cons c body ih =>
    rw [lastSemicolonFrom] at h
    rw [List.length_cons]
    rcases ih h with h' | h'
    · split at h'
      · cases h'
        exact .inr (by omega)
      · exact .inl h'
    · exact .inr (by omega)

theorem le_bodyStop (spans : List Span) (t : Text) (start boundary : Nat) :
    start ≤ bodyStop spans t start boundary := by
  rw [bodyStop]
  split
  · rename_i i hi
    have := lastSemicolonFrom_bounds hi
    simp only [reduceCtorEq, false_or] at this
    omega
  · omega

theorem bodyStop_le {spans : List Span} {t : Text} {start boundary : Nat}
    (h : start ≤ boundary) : bodyStop spans t start boundary ≤ boundary := by
  have hlen : (Text.slice t start boundary).length ≤ boundary - start := by
    rw [Text.length_slice]
    omega
  rw [bodyStop]
  split
  · rename_i i hi
    have := lastSemicolonFrom_bounds hi
    simp only [reduceCtorEq, false_or] at this
    omega
  · have := (Text.stripEnd_prefix (Text.slice t start boundary)).length_le
    omega

/-! ## Declarations -/

/-- The declarations behind a list of entrances, the last of them ending at `stop`. -/
def declarationsUpTo (spans : List Span) (t : Text) (stop : Nat) : List Entrance → List Declaration
  | [] => []
  | e :: rest =>
    declarationOf spans t e ((rest.head?.map Entrance.start).getD stop) ::
      declarationsUpTo spans t stop rest

theorem declarationsOf_eq (spans : List Span) (t : Text) (es : List Entrance) :
    declarationsOf spans t es = declarationsUpTo spans t t.length es := by
  induction es with
  | nil => rfl
  | cons e es ih => rw [declarationsOf, declarationsUpTo, ih]

theorem declarations_eq (t : Text) :
    declarations t = declarationsUpTo (literalSpans t) t t.length (entrances t) := by
  rw [declarations, declarationsOf_eq, entrances]

theorem map_start_declarationsUpTo (spans : List Span) (t : Text) (stop : Nat)
    (es : List Entrance) :
    (declarationsUpTo spans t stop es).map Declaration.start = es.map Entrance.start := by
  induction es with
  | nil => rfl
  | cons e es ih => rw [declarationsUpTo, List.map_cons, List.map_cons, ih, declarationOf]

theorem exists_of_mem_declarationsUpTo {spans : List Span} {t : Text} {stop : Nat}
    {es : List Entrance} {d : Declaration} (h : d ∈ declarationsUpTo spans t stop es) :
    ∃ e ∈ es, ∃ boundary, d = declarationOf spans t e boundary := by
  induction es with
  | nil => simp [declarationsUpTo] at h
  | cons e es ih =>
    rw [declarationsUpTo] at h
    rcases List.mem_cons.1 h with rfl | h
    · exact ⟨e, List.mem_cons_self, _, rfl⟩
    · obtain ⟨e', he', hd⟩ := ih h
      exact ⟨e', List.mem_cons_of_mem _ he', hd⟩

theorem map_name_declarationsUpTo (spans : List Span) (t : Text) (stop : Nat)
    (es : List Entrance) :
    (declarationsUpTo spans t stop es).map Declaration.name =
      (es.map Entrance.heading).map fun h => Name.plain h.value := by
  induction es with
  | nil => rfl
  | cons e es ih =>
    rw [declarationsUpTo, List.map_cons, ih, List.map_cons, List.map_cons, declarationOf]

/-- The names of the declarations are those in the headings. -/
theorem map_name_declarations (t : Text) :
    (declarations t).map Declaration.name = (headings t).map fun h => Name.plain h.value := by
  rw [declarations_eq, map_name_declarationsUpTo, map_heading_entrances]

/-- The name of a declaration is that of a heading. -/
theorem exists_heading_of_mem_declarations {t : Text} {d : Declaration} (h : d ∈ declarations t) :
    ∃ o ∈ headings t, Name.plain o.value = d.name := by
  have hname : d.name ∈ (declarations t).map Declaration.name := List.mem_map_of_mem h
  rwa [map_name_declarations, List.mem_map] at hname

/-- The end of the document, or the first of the entrances left, lies before all of them. -/
theorem boundary_le {stop : Nat} {es : List Entrance}
    (hpair : es.Pairwise fun e e' => e.heading.stop ≤ e'.start)
    (hes : ∀ e ∈ es, e.start < e.heading.stop ∧ e.heading.stop ≤ stop) :
    (es.head?.map Entrance.start).getD stop ≤ stop ∧
      ∀ e ∈ es, (es.head?.map Entrance.start).getD stop ≤ e.start := by
  cases es with
  | nil => exact ⟨Nat.le_refl _, nofun⟩
  | cons e es =>
    have hfirst := (List.pairwise_cons.1 hpair).1
    have he := hes e List.mem_cons_self
    rw [List.head?_cons, Option.map_some, Option.getD_some]
    refine ⟨by omega, fun e' he' => ?_⟩
    rcases List.mem_cons.1 he' with rfl | he'
    · exact Nat.le_refl _
    · have := hfirst e' he'
      omega

theorem declarationsUpTo_bounds {spans : List Span} {t : Text} {stop : Nat} {es : List Entrance}
    (hpair : es.Pairwise fun e e' => e.heading.stop ≤ e'.start)
    (hes : ∀ e ∈ es, e.start < e.heading.stop ∧ e.heading.stop ≤ stop) :
    (∀ d ∈ declarationsUpTo spans t stop es, d.start < d.stop ∧ d.stop ≤ stop) ∧
      (declarationsUpTo spans t stop es).Pairwise fun d d' => d.stop ≤ d'.start := by
  induction es with
  | nil => simp [declarationsUpTo]
  | cons e es ih =>
    obtain ⟨hfirst, hpair⟩ := List.pairwise_cons.1 hpair
    obtain ⟨he, hes⟩ := List.forall_mem_cons.1 hes
    obtain ⟨hbounds, hpairwise⟩ := ih hpair hes
    obtain ⟨hend, hbefore⟩ := boundary_le hpair hes
    have hbehind : e.heading.stop ≤ (es.head?.map Entrance.start).getD stop := by
      cases es with
      | nil => exact he.2
      | cons e' es => exact hfirst e' List.mem_cons_self
    have hle : bodyStop spans t e.heading.stop _ ≤ _ := bodyStop_le hbehind
    have hge := le_bodyStop spans t e.heading.stop ((es.head?.map Entrance.start).getD stop)
    rw [declarationsUpTo]
    refine ⟨List.forall_mem_cons.2 ⟨?_, hbounds⟩, List.pairwise_cons.2 ⟨fun d hd => ?_, hpairwise⟩⟩
    · simp only [declarationOf]
      omega
    · -- a declaration begins where one of the entrances left does
      have hstart : d.start ∈ es.map Entrance.start := by
        rw [← map_start_declarationsUpTo spans t stop]
        exact List.mem_map_of_mem hd
      obtain ⟨e', he', heq⟩ := List.mem_map.1 hstart
      have := hbefore e' he'
      simp only [declarationOf]
      omega

theorem mem_declarations_bounds {t : Text} {d : Declaration} (h : d ∈ declarations t) :
    d.start < d.stop ∧ d.stop ≤ t.length := by
  rw [declarations_eq] at h
  refine (declarationsUpTo_bounds (entrances_pairwise t) fun e he => ?_).1 d h
  have := entrances_bounds he
  omega

/-- **Declarations follow one another without overlap.** -/
theorem declarations_pairwise (t : Text) :
    (declarations t).Pairwise fun d d' => d.stop ≤ d'.start := by
  rw [declarations_eq]
  refine (declarationsUpTo_bounds (entrances_pairwise t) fun e he => ?_).2
  have := entrances_bounds he
  omega

/-- Two declarations that overlap are one. -/
theorem eq_of_mem_declarations {t : Text} {d d' : Declaration} (hd : d ∈ declarations t)
    (hd' : d' ∈ declarations t) (h : d.start < d'.stop) (h' : d'.start < d.stop) : d = d' :=
  eq_of_overlap (declarations_pairwise t) hd hd' h h'

end Mashup
end Dataflow
