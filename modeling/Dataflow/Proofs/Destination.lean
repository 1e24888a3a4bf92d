import Dataflow.Proofs.Entrance
import Dataflow.Proofs.Registration
import Dataflow.Proofs.Rendering

/-!
# Where an attribute sends the data

The destination of a query is read from its attribute: of a call, from the attribute as it is given,
and of a document, from the attribute as it was written, without the blanks around it.  Both give
the same name (`Call.destination?_query`).

The blanks in front are easy, since what is read begins with a bracket or a letter.  The blanks
behind are no part of it, but that has to be shown of every piece of the pattern.  `LeavesBlanks`
says it of whatever reads the beginning of a text, and it goes through `bind`, so the pattern gets
it from the pieces of which it is put together.
-/

set_option autoImplicit false

namespace Dataflow
namespace Mashup

/-! ## Blanks at the end -/

/-- What is left of a text may have blanks behind it. -/
def LeavesBlanks (read : Text → Option Text) : Prop :=
  ∀ u ws, Text.allBlank ws = true → read (u ++ ws) = (read u).map (· ++ ws)

theorem leavesBlanks_sign? {s : Char} (hs : isBlank s = false) : LeavesBlanks (sign? s) := by
  intro u ws hws
  cases u with
  | cons c u =>
    rw [List.cons_append, sign?, sign?]
    split <;> rfl
  | nil =>
    cases ws with
    | nil => rfl
    | cons c ws =>
      have hc : c ≠ s := by
        rintro rfl
        rw [Text.allBlank, List.all_cons, hs] at hws
        cases hws
      exact if_neg hc

/-- A keyword stops in front of a blank. -/
theorem leavesBlanks_keyword? {letters : Text} (h : IsPlainWord letters) :
    LeavesBlanks (keyword? letters) := by
  intro u ws hws
  induction letters generalizing u with
  | nil => rfl
  | cons letter letters ih =>
    obtain ⟨hletter, hletters⟩ := List.forall_mem_cons.1 h
    cases u with
    | cons c u =>
      rw [List.cons_append, keyword?, keyword?]
      split
      · exact ih hletters u
      · rfl
    | nil =>
      cases ws with
      | nil => rfl
      | cons c ws =>
        have hc : matchesLetter letter c = false := by
          rw [Text.allBlank, List.all_cons, Bool.and_eq_true] at hws
          refine Bool.eq_false_iff.2 fun hmatch => ?_
          rw [(isPlain_of_matchesLetter hletter hmatch).2] at hws
          cases hws.1
        rw [List.nil_append, keyword?, hc]
        rfl

theorem blanks_of_allBlank {t : Text} (h : Text.allBlank t = true) : blanks t = [] :=
  List.dropWhile_eq_nil_iff.2 (List.all_eq_true.1 h)

/-- Blanks in front may be passed over first. -/
theorem LeavesBlanks.blanks {read : Text → Option Text} (h : LeavesBlanks read)
    (hnil : read [] = none) : LeavesBlanks fun t => read (blanks t) := by
  intro u ws hws
  by_cases hu : Text.allBlank u = true
  · have hboth : Text.allBlank (u ++ ws) = true := by
      rw [Text.allBlank_append, hu, hws]
      rfl
    simp only [blanks_of_allBlank hu, blanks_of_allBlank hboth, hnil, Option.map_none]
  · have hsplit : Mashup.blanks (u ++ ws) = Mashup.blanks u ++ ws := by
      rw [Mashup.blanks, List.dropWhile_append, if_neg]
      · rfl
      · rw [List.isEmpty_iff, List.dropWhile_eq_nil_iff]
        exact fun hall => hu (List.all_eq_true.2 hall)
    simp only [hsplit]
    exact h _ ws hws

/-- What goes on behind a reading leaves blanks at the end alone, if both do. -/
theorem LeavesBlanks.bind {read : Text → Option Text} (h : LeavesBlanks read) {α : Type}
    {next : Text → Option (α × Text)}
    (hnext : ∀ u ws, Text.allBlank ws = true →
      next (u ++ ws) = (next u).map (Prod.map id (· ++ ws)))
    (u ws : Text) (hws : Text.allBlank ws = true) :
    (read (u ++ ws)).bind next = ((read u).bind next).map (Prod.map id (· ++ ws)) := by
  rw [h u ws hws]
  cases read u with
  | none => rfl
  | some r => exact hnext r ws hws

/-- A pattern leaves the blanks at the end of a text alone, begins with no blank, and does not care
for what stands in front. -/
structure Pattern.LeavesBlanks {α : Type} (p : Pattern α) : Prop where
  /-- What is left may have blanks behind it. -/
  behind : ∀ b u ws, Text.allBlank ws = true → p b (u ++ ws) = (p b u).map (Prod.map id (· ++ ws))
  /-- A match begins with a plain character. -/
  front : p.StartsPlain
  /-- What stands in front does not matter. -/
  anywhere : ∀ b b' t, p b t = p b' t

namespace Pattern.LeavesBlanks

variable {α : Type} {p : Pattern α}

/-- Blanks at the end are not reached. -/
theorem occurrencesFrom_append (h : p.LeavesBlanks) {ws : Text} (hws : Text.allBlank ws = true)
    (b : Option Char) (pos : Nat) {skip : Nat} {u : Text} (hskip : skip ≤ u.length) :
    occurrencesFrom p b pos skip (u ++ ws) = occurrencesFrom p b pos skip u := by
  induction u generalizing b pos skip with
  | nil =>
    obtain rfl := Nat.le_zero.1 hskip
    have hfront : p.StartsPlain := h.front
    have hnone := hfront.occurrencesFrom_of_allBlank hws b pos []
    rw [List.append_nil] at hnone
    rw [List.nil_append, hnone]
    rfl
  | cons c u ih =>
    cases skip with
    | succ skip => exact ih _ _ (Nat.le_of_succ_le_succ hskip)
    | zero =>
      have hhere := h.behind b (c :: u) ws hws
      rw [List.cons_append] at hhere ⊢
      rw [occurrencesFrom, occurrencesFrom, hhere]
      cases hp : p b (c :: u) with
      | none => exact ih _ _ (Nat.zero_le _)
      | some y =>
        have hsize : (c :: (u ++ ws)).length - (y.2 ++ ws).length =
            (c :: u).length - y.2.length := by
          simp only [List.length_cons, List.length_append]
          omega
        have hle : (c :: u).length - y.2.length - 1 ≤ u.length := by
          rw [List.length_cons]
          omega
        simp only [Option.map_some, Prod.map, id, hsize]
        rw [ih _ _ hle]

/-- Blanks at the beginning are passed over. -/
theorem map_value_append (h : p.LeavesBlanks) {ws : Text} (hws : Text.allBlank ws = true)
    (t : Text) :
    (occurrences p (ws ++ t)).map Occurrence.value = (occurrences p t).map Occurrence.value := by
  have hfront : p.StartsPlain := h.front
  rw [occurrences, hfront.occurrencesFrom_of_allBlank hws,
    occurrencesFrom_congr (h.anywhere _ none t), Nat.add_comm 0 ws.length, occurrencesFrom_shift,
    List.map_map]
  rfl

/-- **What is found does not depend on the blanks around a text.** -/
theorem map_value_strip (h : p.LeavesBlanks) (t : Text) :
    (occurrences p (Text.strip t)).map Occurrence.value =
      (occurrences p t).map Occurrence.value := by
  obtain ⟨tail, htail, hblank⟩ := dropEndWhile_append_exists isBlank (t.dropWhile isBlank)
  have hws : Text.allBlank (t.takeWhile isBlank) = true :=
    List.all_eq_true.2 (fun _ => List.mem_takeWhile_imp)
  have hsplit : t = t.takeWhile isBlank ++ (Text.strip t ++ tail) := by
    conv_lhs => rw [← List.takeWhile_append_dropWhile (p := isBlank) (l := t), htail]
    rfl
  conv_rhs => rw [hsplit, h.map_value_append hws, occurrences,
    h.occurrencesFrom_append (List.all_eq_true.2 hblank) none 0 (Nat.zero_le _)]
  rfl

end Pattern.LeavesBlanks

/-- What is found was found where it begins. -/
theorem exists_of_mem_occurrencesFrom {α : Type} {p : Pattern α} {b : Option Char}
    {pos skip : Nat} {t : Text} {o : Occurrence α} (h : o ∈ occurrencesFrom p b pos skip t) :
    ∃ before front u r, t = front ++ u ∧ o.start = pos + front.length ∧
      o.stop = o.start + (u.length - r.length) ∧ p before u = some (o.value, r) := by
  have hbehind : ∀ {c : Char} {pos : Nat} {rest : Text},
      (∃ before front u r, rest = front ++ u ∧ o.start = pos + 1 + front.length ∧
        o.stop = o.start + (u.length - r.length) ∧ p before u = some (o.value, r)) →
      ∃ before front u r, c :: rest = front ++ u ∧ o.start = pos + front.length ∧
        o.stop = o.start + (u.length - r.length) ∧ p before u = some (o.value, r) := by
    rintro c pos rest ⟨before, front, u, r, rfl, hstart, hstop, hp⟩
    refine ⟨before, c :: front, u, r, rfl, ?_, hstop, hp⟩
    rw [hstart, List.length_cons, Nat.add_assoc, Nat.add_comm 1]
  fun_induction occurrencesFrom p b pos skip t with
  | case1 => cases h
  | case2 b pos skip c rest ih | case4 b pos c rest hm ih => exact hbehind (ih h)
  | case3 b pos c rest x after hm size ih =>
    rcases List.mem_cons.1 h with rfl | h
    · exact ⟨b, [], c :: rest, after, rfl, rfl, rfl, hm⟩
    · exact hbehind (ih h)

/-- What a pattern finds first is its first occurrence. -/
theorem Pattern.firstAfter_eq {α : Type} (p : Pattern α) (b : Option Char) (pos : Nat) (t : Text) :
    p.firstAfter b t = (occurrencesFrom p b pos 0 t).head?.map Occurrence.value := by
  induction t generalizing b pos with
  | nil => rfl
  | cons c rest ih =>
    rw [firstAfter, occurrencesFrom]
    cases p b (c :: rest) with
    | none => exact ih (some c) (pos + 1)
    | some y => rfl

/-! ## The two patterns of a destination -/

namespace Attribute

/-- A word ends where blanks begin. -/
theorem endsWord_append {ws : Text} (hws : Text.allBlank ws = true) (u : Text) :
    endsWord (u ++ ws) = endsWord u := by
  cases u with
  | cons c u => rfl
  | nil =>
    cases ws with
    | nil => rfl
    | cons c ws =>
      rw [Text.allBlank, List.all_cons, Bool.and_eq_true] at hws
      simp [endsWord, isWord_of_isBlank hws.1]

theorem leavesBlanks_destinationMarker : destinationMarker.LeavesBlanks where
  behind _ := by
    have hopen : LeavesBlanks (sign? '[') := leavesBlanks_sign? (by decide)
    have hword : LeavesBlanks fun t => keyword? (text "datadestinations") (blanks t) :=
      (leavesBlanks_keyword? (by decide)).blanks rfl
    refine hopen.bind (hword.bind fun u ws hws => ?_)
    rw [endsWord_append hws]
    cases endsWord u <;> rfl
  front := by
    intro b t r x h
    cases hopen : sign? '[' t with
    | none => simp [destinationMarker, hopen] at h
    | some rest => exact ⟨'[', rest, sign?_eq_some_iff.1 hopen, by decide, by decide⟩
  anywhere _ _ _ := rfl

/-- The name up to a quote, and what follows the quote. -/
def quotedName (t : Text) : Option (Text × Text) := do
  let name := t.takeWhile (· ≠ '"')
  guard (!name.isEmpty)
  let rest ← sign? '"' (t.dropWhile (· ≠ '"'))
  return (name, rest)

theorem quotedName_of_quote {n : Text} (hn : '"' ∉ n) (r : Text) :
    quotedName (n ++ '"' :: r) = if n.isEmpty then none else some (n, r) := by
  have hall : ∀ c ∈ n, decide (c ≠ '"') = true :=
    fun c hc => decide_eq_true fun heq => hn (heq ▸ hc)
  simp only [quotedName, List.takeWhile_append_of_pos hall, List.dropWhile_append_of_pos hall,
    List.takeWhile_cons_of_neg (p := fun c => decide (c ≠ '"')) (a := '"') (by decide),
    List.dropWhile_cons_of_neg (p := fun c => decide (c ≠ '"')) (a := '"') (by decide),
    List.append_nil]
  cases n <;> rfl

theorem quotedName_eq_none {t : Text} (ht : '"' ∉ t) : quotedName t = none := by
  have hdrop : t.dropWhile (· ≠ '"') = [] :=
    List.dropWhile_eq_nil_iff.2 fun c hc => decide_eq_true fun heq => ht (heq ▸ hc)
  simp only [quotedName, hdrop, sign?, Option.bind_eq_bind, Option.bind_none]
  cases (t.takeWhile (· ≠ '"')).isEmpty <;> rfl

theorem quotedName_append {ws : Text} (hws : Text.allBlank ws = true) (u : Text) :
    quotedName (u ++ ws) = (quotedName u).map (Prod.map id (· ++ ws)) := by
  by_cases hquote : '"' ∈ u
  · obtain ⟨n, r, rfl, hn⟩ := List.eq_append_cons_of_mem hquote
    rw [List.append_assoc, List.cons_append, quotedName_of_quote hn, quotedName_of_quote hn]
    cases n <;> rfl
  · have hboth : '"' ∉ u ++ ws := by
      rw [List.mem_append, not_or]
      exact ⟨hquote, not_mem_of_allBlank hws (by decide)⟩
    rw [quotedName_eq_none hquote, quotedName_eq_none hboth]
    rfl

theorem queryNameField_eq (b : Option Char) (t : Text) :
    queryNameField b t = (keyword? (text "queryname") t).bind fun r =>
      (sign? '=' (blanks r)).bind fun r => (sign? '"' (blanks r)).bind quotedName := rfl

theorem leavesBlanks_queryNameField : queryNameField.LeavesBlanks where
  behind _ := by
    have hword : LeavesBlanks (keyword? (text "queryname")) := leavesBlanks_keyword? (by decide)
    have hequals : LeavesBlanks fun t => sign? '=' (blanks t) :=
      (leavesBlanks_sign? (by decide)).blanks rfl
    have hquote : LeavesBlanks fun t => sign? '"' (blanks t) :=
      (leavesBlanks_sign? (by decide)).blanks rfl
    exact hword.bind (hequals.bind (hquote.bind fun u ws hws => quotedName_append hws u))
  front := by
    intro b t r x h
    rw [queryNameField_eq] at h
    obtain ⟨rest, hrest, -⟩ := Option.bind_eq_some_iff.1 h
    exact keyword?_head (by decide) hrest
  anywhere _ _ _ := rfl

/-- A name that is read has characters, no quote among them, and a quote behind it. -/
theorem quotedName_eq_some {t n r : Text} (h : quotedName t = some (n, r)) :
    n ≠ [] ∧ '"' ∉ n ∧ t = n ++ '"' :: r := by
  by_cases hquote : '"' ∈ t
  · obtain ⟨m, u, rfl, hm⟩ := List.eq_append_cons_of_mem hquote
    rw [quotedName_of_quote hm] at h
    cases m with
    | nil => cases h
    | cons c m =>
      obtain ⟨rfl, rfl⟩ := Prod.mk.inj (Option.some.inj h)
      exact ⟨List.cons_ne_nil c m, hm, rfl⟩
  · rw [quotedName_eq_none hquote] at h
    cases h

/-- A field ends with its name in quotes. -/
theorem queryNameField_eq_some {b : Option Char} {t n r : Text}
    (h : queryNameField b t = some (n, r)) :
    n ≠ [] ∧ '"' ∉ n ∧ ∃ front, t = front ++ (n ++ '"' :: r) := by
  rw [queryNameField_eq] at h
  obtain ⟨t₁, hword, h⟩ := Option.bind_eq_some_iff.1 h
  obtain ⟨t₂, hequals, h⟩ := Option.bind_eq_some_iff.1 h
  obtain ⟨t₃, hquote, h⟩ := Option.bind_eq_some_iff.1 h
  obtain ⟨hne, hnot, rfl⟩ := quotedName_eq_some h
  obtain ⟨k, rfl, -⟩ := exists_of_keyword? hword
  obtain ⟨ws, hws, -, -⟩ := exists_of_blanks t₁
  obtain ⟨ws', hws', -, -⟩ := exists_of_blanks t₂
  rw [sign?_eq_some_iff.1 hequals] at hws
  rw [sign?_eq_some_iff.1 hquote] at hws'
  refine ⟨hne, hnot, k ++ (ws ++ '=' :: (ws' ++ ['"'])), ?_⟩
  rw [hws, hws']
  simp

/-- The destination, by what the two patterns find first. -/
theorem destination?_some (a : Text) :
    destination? (some a) = if (destinationMarker.firstAfter none a).isSome
      then queryNameField.firstAfter none a else none := by
  have hmarker : destinationMarker.isIn a = (destinationMarker.firstAfter none a).isSome := rfl
  rw [queryNameField.firstAfter_eq none 0]
  simp only [destination?, Option.bind_eq_bind, Option.bind_some, hmarker]
  by_cases h : (destinationMarker.firstAfter none a).isSome = true
  · simp only [h, if_true, occurrences]
    cases (occurrencesFrom queryNameField none 0 0 a).head? <;> rfl
  · simp only [Bool.not_eq_true] at h
    simp only [h, if_neg Bool.false_ne_true]
    rfl

/-- Nor do the blanks around a text for what is found first in it. -/
theorem firstAfter_strip {α : Type} {p : Pattern α} (h : p.LeavesBlanks) (a : Text) :
    p.firstAfter none (Text.strip a) = p.firstAfter none a := by
  have hvalues := congrArg List.head? (h.map_value_strip a)
  rwa [List.head?_map, List.head?_map, occurrences, occurrences, ← p.firstAfter_eq,
    ← p.firstAfter_eq] at hvalues

/-- **The blanks around an attribute do not matter.** -/
theorem destination?_strip (a : Text) :
    destination? (some (Text.strip a)) = destination? (some a) := by
  rw [destination?_some, destination?_some, firstAfter_strip leavesBlanks_destinationMarker,
    firstAfter_strip leavesBlanks_queryNameField]

/-- A destination is found by the pattern somewhere. -/
theorem exists_of_destination? {attr : Option Text} {target : Text}
    (h : destination? attr = some target) : ∃ b t r, queryNameField b t = some (target, r) := by
  obtain ⟨a, -, h⟩ := Option.bind_eq_some_iff.1 h
  obtain ⟨-, -, h⟩ := Option.bind_eq_some_iff.1 h
  obtain ⟨found, hfound, hvalue⟩ := Option.bind_eq_some_iff.1 h
  obtain ⟨b, -, u, r, -, -, -, hfield⟩ := exists_of_mem_occurrencesFrom (List.mem_of_head? hfound)
  exact ⟨b, u, r, Option.some.inj hvalue ▸ hfield⟩

/-- A destination has a name. -/
theorem destination?_ne_nil (attr : Option Text) : destination? attr ≠ some [] := by
  intro h
  obtain ⟨b, t, r, hfield⟩ := exists_of_destination? h
  exact (queryNameField_eq_some hfield).1 rfl

/-- **There is no quote in the name of a destination.** -/
theorem not_mem_of_destination? {attr : Option Text} {target : Text}
    (h : destination? attr = some target) : '"' ∉ target := by
  obtain ⟨b, t, r, hfield⟩ := exists_of_destination? h
  exact (queryNameField_eq_some hfield).2.1

/-- The name that was found lies in front of the quote at the end. -/
theorem slice_of_mem_occurrences {a : Text} {o : Occurrence Text}
    (h : o ∈ occurrences queryNameField a) :
    Text.slice a (o.stop - 1 - o.value.length) (o.stop - 1) = o.value := by
  obtain ⟨b, front, u, r, rfl, hstart, hstop, hfield⟩ := exists_of_mem_occurrencesFrom h
  obtain ⟨-, -, k, rfl⟩ := queryNameField_eq_some hfield
  have hend : o.stop - 1 = (front ++ k).length + o.value.length := by
    rw [hstop, hstart]
    simp only [List.length_append, List.length_cons]
    omega
  rw [hend, Nat.add_sub_cancel, Text.slice_eq_take_drop, Nat.add_sub_cancel_left,
    ← List.append_assoc, List.drop_left, List.take_left]

end Attribute

namespace Wide

/-- **An attribute without halves sends the data where the text of it does.** -/
theorem destination?_widen (attr : Option Text) :
    destination? (attr.map Text.widen) = (Attribute.destination? attr).map Text.widen := by
  cases attr with
  | none => rfl
  | some a =>
    simp only [destination?, Attribute.destination?, Option.map_some, Option.bind_eq_bind,
      Option.bind_some, WideText.outline_widen, WideText.slice_widen]
    cases Attribute.destinationMarker.isIn a with
    | false => rfl
    | true =>
      cases hfound : (occurrences Attribute.queryNameField a).head? with
      | none => rfl
      | some o =>
        exact congrArg (some ∘ Text.widen)
          (Attribute.slice_of_mem_occurrences (List.mem_of_head? hfound))

/-- The outline of a destination is that of the outline. -/
theorem outline_destination? (attr : Option WideText) :
    (destination? attr).map WideText.outline =
      Attribute.destination? (attr.map WideText.outline) := by
  cases attr with
  | none => rfl
  | some a =>
    have hslice : ∀ start stop, WideText.outline (Text.slice a start stop) =
        Text.slice a.outline start stop := fun start stop => by
      rw [Text.slice, Text.slice, WideText.outline, WideText.outline, List.map_drop, List.map_take]
    simp only [destination?, Attribute.destination?, Option.map_some, Option.bind_eq_bind,
      Option.bind_some]
    cases Attribute.destinationMarker.isIn a.outline with
    | false => rfl
    | true =>
      cases hfound : (occurrences Attribute.queryNameField a.outline).head? with
      | none => rfl
      | some o =>
        exact congrArg some ((hslice _ _).trans
          (Attribute.slice_of_mem_occurrences (List.mem_of_head? hfound)))

theorem target?_widen (attr : Option Text) :
    target? (attr.map Text.widen) = (Attribute.destination? attr).map Text.widen := by
  rw [target?, destination?_widen]
  cases hd : Attribute.destination? attr with
  | none => rfl
  | some name =>
    cases name with
    | nil => exact absurd hd (Attribute.destination?_ne_nil attr)
    | cons c name => rfl

end Wide

/-- **The destination in the document is that of the call.** -/
theorem Call.destination?_query (c : Call) :
    Attribute.destination? (some c.query.attr) = Attribute.destination? c.attr := by
  have hnil : Attribute.destination? (some []) = none := rfl
  rw [Call.query]
  cases c.attr with
  | none => exact hnil
  | some a =>
    rw [← Attribute.destination?_strip a]
    by_cases hblank : Text.allBlank a = true
    · rw [(Text.strip_eq_nil_iff a).2 hblank]
      simp only [Attribute.given?, hblank, if_true, Option.getD_none]
    · rw [Attribute.given?, if_neg hblank]
      rfl

end Mashup

/-- **Adding a query without halves** writes the text of the document and registers the text of the
destination. -/
theorem Definition.addQuery_widen {d : Definition} {t : Text} (hd : d.document = .ok t)
    (name code : Text) (attr sectionAttr : Option Text) {defaults : Defaults}
    {ids ids' : IdSupply} {m : Metadata}
    (h : d.metadata.register (Text.widen (Mashup.Name.plain name))
      ((Mashup.Attribute.destination? attr).map Text.widen) defaults ids = (m, ids')) :
    d.addQuery (Text.widen name) (Text.widen code) (attr.map Text.widen)
        (sectionAttr.map Text.widen) defaults ids =
      ((d.setText Role.mashup.path (Mashup.upsert t name code attr sectionAttr)).setMetadata m,
        ids') := by
  have happly : (Metadata.Change.register (Mashup.Wide.plain (Text.widen name))
      (attr.map Text.widen)).apply d.metadata defaults ids = (m, ids') := by
    rw [Metadata.Change.apply, Mashup.Wide.plain_widen, Mashup.Wide.destination?_widen, h]
  rw [addQuery, hd]
  simp only [Mashup.Wide.upsert_widen, setDocument_widen, happly]

end Dataflow
