import Dataflow.Mashup.Section
import Dataflow.Proofs.Arrangement
import Mathlib.Data.List.Induction

/-!
# Upserts on documents in slots

On a document that is laid out in slots `upsert` is what an insertion-ordered map does: `record`
replaces the query of that name where it stands, or puts a new one at the end.  The text of one slot
is replaced, or a slot is added, so the document is in slots afterwards (`LaidOut.upsert`).

A document that begins empty and is only ever changed by `upsert` is a header and one declaration a
line.  `render` is that text, and `queries_upserts` follows by induction on the calls.
-/

set_option autoImplicit false

namespace Dataflow
namespace Mashup

/-! ## The text of a list of queries -/

/-- The attribute of a query, if it has one. -/
def Query.ownAttribute (q : Query) : Option Text := if q.attr = [] then none else some q.attr

/-- The declaration of a query as it is written. -/
def Query.written (q : Query) : Text := declared (Name.written q.name) q.code q.ownAttribute

/-- A query that reads back when it is written. -/
structure Query.IsWritable (q : Query) : Prop where
  /-- Its pieces can be written. -/
  writable : Writable (Name.written q.name) q.code q.ownAttribute
  /-- Its name is plain. -/
  plain : Name.plain q.name = q.name

/-- Declarations, each on a new line. -/
def lines (qs : List Query) : Text := qs.flatMap fun q => lineBreak ++ q.written

/-- The document of a list of queries. -/
def render (qs : List Query) : Text := defaultHeader ++ lines qs

theorem lines_append (qs qs' : List Query) : lines (qs ++ qs') = lines qs ++ lines qs' := by
  simp [lines]

theorem lines_cons (q : Query) (qs : List Query) :
    lines (q :: qs) = lineBreak ++ (q.written ++ lines qs) := by
  simp [lines]

theorem Query.getD_ownAttribute (q : Query) : q.ownAttribute.getD [] = q.attr := by
  rw [ownAttribute]
  split
  · rename_i h
    exact h.symm
  · rfl

theorem Query.IsWritable.declarations_written {q : Query} (h : q.IsWritable) :
    declarations q.written = [⟨q.name, q.code, q.attr, 0, q.written.length⟩] := by
  rw [Query.written, h.writable.declarations_declared, Name.plain_written, h.plain,
    q.getD_ownAttribute]

/-- The slot of a query behind some blanks. -/
def Query.slot (q : Query) (gap : Text) : Slot := ⟨gap, q.written, q⟩

theorem Query.IsWritable.slot_isGood {q : Query} (h : q.IsWritable) {gap : Text}
    (hgap : Text.allBlank gap = true) : (q.slot gap).IsGood where
  blank := hgap
  isSealed := h.writable.isSealed
  declared := h.declarations_written

theorem allBlank_lineBreak : Text.allBlank lineBreak = true := by
  decide

/-- A rendered document has a slot on each line. -/
theorem render_eq_layOut (qs : List Query) :
    render qs = layOut defaultHeader (qs.map (·.slot lineBreak)) [] := by
  rw [render, lines, layOut, slotsText, List.flatMap_map, List.append_nil]
  rfl

theorem forall_slot_isGood {qs : List Query} (h : ∀ q ∈ qs, q.IsWritable) :
    ∀ s ∈ qs.map (·.slot lineBreak), s.IsGood :=
  List.forall_mem_map.2 fun q hq => (h q hq).slot_isGood allBlank_lineBreak

/-- The queries of a rendered document are those it was made from. -/
theorem queries_render {qs : List Query} (h : ∀ q ∈ qs, q.IsWritable) :
    queries (render qs) = qs := by
  rw [render_eq_layOut, queries_layOut isHead_defaultHeader (forall_slot_isGood h) rfl,
    List.map_map]
  exact List.map_id qs

/-! ## A map in order of insertion -/

/-- Put a query in the place of the one of its name, or at the end. -/
def record : List Query → Query → List Query
  | [], q => [q]
  | p :: ps, q => if p.name = q.name then q :: ps else p :: record ps q

/-- Either the name is new, or there is a first query of that name. -/
theorem record_cases (qs : List Query) (q : Query) :
    ((∀ p ∈ qs, p.name ≠ q.name) ∧ record qs q = qs ++ [q]) ∨
      ∃ front old back, qs = front ++ old :: back ∧ (∀ p ∈ front, p.name ≠ q.name) ∧
        old.name = q.name ∧ record qs q = front ++ q :: back := by
  induction qs with
  | nil => exact .inl ⟨by simp, rfl⟩
  | cons p ps ih =>
    rw [record]
    by_cases hp : p.name = q.name
    · rw [if_pos hp]
      exact .inr ⟨[], p, ps, rfl, by simp, hp, rfl⟩
    · rw [if_neg hp]
      rcases ih with ⟨hnew, hrec⟩ | ⟨front, old, back, rfl, hfront, hold, hrec⟩
      · exact .inl ⟨List.forall_mem_cons.2 ⟨hp, hnew⟩, by rw [hrec]; rfl⟩
      · exact .inr ⟨p :: front, old, back, rfl, List.forall_mem_cons.2 ⟨hp, hfront⟩, hold,
          by rw [hrec]; rfl⟩

theorem mem_record {qs : List Query} {q p : Query} (h : p ∈ record qs q) : p = q ∨ p ∈ qs := by
  rcases record_cases qs q with ⟨-, hrec⟩ | ⟨front, old, back, rfl, -, -, hrec⟩
  · rw [hrec, List.mem_append, List.mem_singleton] at h
    exact h.symm
  · rw [hrec] at h
    rcases List.mem_append.1 h with h | h
    · exact .inr (List.mem_append_left _ h)
    · rcases List.mem_cons.1 h with rfl | h
      · exact .inl rfl
      · exact .inr (List.mem_append_right _ (List.mem_cons_of_mem _ h))

/-- The names stay in order of their first appearance. -/
theorem map_name_record (qs : List Query) (q : Query) :
    (record qs q).map Query.name =
      if q.name ∈ qs.map Query.name then qs.map Query.name else qs.map Query.name ++ [q.name] := by
  rcases record_cases qs q with ⟨hnew, hrec⟩ | ⟨front, old, back, rfl, hfront, hold, hrec⟩
  · rw [hrec, if_neg, List.map_append]
    · rfl
    · rintro hmem
      obtain ⟨p, hp, hname⟩ := List.mem_map.1 hmem
      exact hnew p hp hname
  · rw [hrec, if_pos]
    · simp [hold]
    · simp [hold]

/-! ## One upsert -/

/-- What one upsert is asked to write, without an attribute for the section. -/
structure Call where
  /-- The name of the query. -/
  name : Text
  /-- Its code. -/
  code : Text
  /-- Its attribute. -/
  attr : Option Text

/-- The query that a call leaves in the document. -/
def Call.query (c : Call) : Query :=
  ⟨c.name, letBlock c.code, (Attribute.given? c.attr).getD []⟩

/-- A call whose pieces leave nothing open and look like no heading. -/
structure Call.IsPlain (c : Call) : Prop where
  /-- There is a name. -/
  name_ne_nil : c.name ≠ []
  /-- It is not in quoted form. -/
  unquoted : Text.hasPrefix c.name ['#', '"'] = false
  /-- The code leaves no literal or comment open. -/
  closed : leavesNothingOpen (letBlock c.code) = true
  /-- The keyword of a heading is not found in the code. -/
  unmarked : (keywordMark (text "shared")).isIn (letBlock c.code) = false
  /-- An attribute closes its brackets and strings, is no staging marker, and no heading. -/
  attr : ∀ a, Attribute.given? c.attr = some a →
    leavesNothingOpen a = true ∧ Attribute.isStaging a = false ∧
      openBracket? a (a.length - 1) = some 0 ∧ (keywordMark (text "shared")).isIn a = false

/-- The last character of an attribute is found by its offset. -/
theorem bracketAtEnd?_eq (a : Text) : bracketAtEnd? a = openBracket? a (a.length - 1) := by
  cases a with
  | nil => rfl
  | cons c u =>
    rw [bracketAtEnd?, openBracket?, List.getLast?_eq_getElem?, List.take_of_length_le (by simp)]

theorem Call.ownAttribute_query (c : Call) :
    c.query.ownAttribute = Attribute.given? c.attr := by
  rw [Query.ownAttribute, Call.query]
  cases h : Attribute.given? c.attr with
  | none => rfl
  | some a => exact if_neg (Attribute.given?_eq_some h).1

theorem Call.IsPlain.isWritable {c : Call} (h : c.IsPlain) : c.query.IsWritable where
  writable := {
    name := Name.isNameToken_written h.name_ne_nil h.unquoted
    solid := letBlock_isSolid c.code
    closed := h.closed
    unmarked := h.unmarked
    attr := by
      intro a ha
      rw [c.ownAttribute_query] at ha
      obtain ⟨hclosed, hstaging, hbracket, hmark⟩ := h.attr a ha
      exact ⟨by rw [bracketAtEnd?_eq, hbracket], hstaging, hclosed, hmark⟩ }
  plain := Name.plain_eq_self h.unquoted

/-- The text that a call writes is that of its query. -/
theorem Call.IsPlain.declare_eq_written {c : Call} (h : c.IsPlain) :
    settleAttributes c.attr none = (Attribute.given? c.attr, none) ∧
      declare c.name c.code (Attribute.given? c.attr) = c.query.written := by
  constructor
  · rw [settleAttributes]
    cases ha : Attribute.given? c.attr with
    | none => rfl
    | some a => simp [(h.attr a ha).2.1, Attribute.given?]
  · rw [declare_eq, Attribute.given?_given?, Query.written, c.ownAttribute_query]
    rfl

theorem upsert_eq_declare {c : Call} (h : c.IsPlain) (t : Text) :
    upsert t c.name c.code c.attr none =
      match declaration? t c.name with
      | some old => t.take old.start ++ c.query.written ++ t.drop old.stop
      | none =>
        if isBareSection t then newSection (Text.strip t) c.query.written none
        else t ++ (if t.getLast? = some '\n' then [] else lineBreak) ++ c.query.written := by
  obtain ⟨hsettle, hdecl⟩ := h.declare_eq_written
  rw [upsert, hsettle]
  simp only [hdecl, Name.plain_eq_self h.unquoted]
  cases declaration? t c.name with
  | some old => rfl
  | none =>
    by_cases hbare : isBareSection t = true
    · simp [hbare]
    · simp [hbare, withSectionAttribute, Attribute.given?]

section

variable {head trail : Text} {slots : List Slot} {c : Call}

/-- A new query gets a slot behind the others. -/
theorem upsert_layOut_new (hhead : IsHead head) (hne : slots ≠ []) (hslots : ∀ s ∈ slots, s.IsGood)
    (htrail : Text.allBlank trail = true) (hc : c.IsPlain)
    (hnew : ∀ s ∈ slots, s.query.name ≠ c.name) :
    upsert (layOut head slots trail) c.name c.code c.attr none =
      layOut head (slots ++ [c.query.slot (trail ++ breakAfter (layOut head slots trail))]) [] := by
  obtain ⟨s, hs⟩ := List.exists_mem_of_ne_nil slots hne
  have hbare := isBareSection_layOut hhead hs (hslots s hs) trail
  have htext : upsert (layOut head slots trail) c.name c.code c.attr none =
      layOut head slots trail ++ breakAfter (layOut head slots trail) ++ c.query.written := by
    rw [upsert_eq_declare hc, declaration?_layOut_new hhead hslots htrail hnew]
    simp only [hbare, Bool.false_eq_true, if_false, breakAfter]
  rw [htext]
  generalize breakAfter (layOut head slots trail) = sep
  simp only [layOut, slotsText_append, slotsText_cons, slotsText_nil, Query.slot,
    List.append_assoc, List.append_nil]

/-- A query that is there is replaced in its slot. -/
theorem upsert_layOut_found {front back : List Slot} {old : Slot} (hhead : IsHead head)
    (hslots : ∀ s ∈ front ++ old :: back, s.IsGood) (htrail : Text.allBlank trail = true)
    (hc : c.IsPlain) (hfront : ∀ s ∈ front, s.query.name ≠ c.name)
    (hold : old.query.name = c.name) :
    upsert (layOut head (front ++ old :: back) trail) c.name c.code c.attr none =
      layOut head (front ++ c.query.slot old.gap :: back) trail := by
  obtain ⟨d, hfind, htext⟩ :=
    splice_layOut hhead hslots htrail hfront hold c.query c.query.written
  rw [upsert_eq_declare hc, hfind]
  exact htext

end

theorem getLast?_render {qs : List Query} (h : qs ≠ []) : (render qs).getLast? = some ';' := by
  rcases List.eq_nil_or_concat qs with rfl | ⟨front, q, rfl⟩
  · exact absurd rfl h
  · rw [List.concat_eq_append, render, lines_append, lines_cons]
    simp [lines, Query.written, getLast?_declared]

/-- **One upsert is one step of the map.** -/
theorem upsert_render {qs : List Query} (hne : qs ≠ []) (hqs : ∀ q ∈ qs, q.IsWritable) {c : Call}
    (hc : c.IsPlain) :
    upsert (render qs) c.name c.code c.attr none = render (record qs c.query) := by
  have hgood := forall_slot_isGood hqs
  rcases record_cases qs c.query with ⟨hnew, hrec⟩ | ⟨front, old, back, rfl, hfront, hold, hrec⟩
  · have hslots : qs.map (·.slot lineBreak) ≠ [] := mt List.map_eq_nil_iff.1 hne
    have hbreak : breakAfter (render qs) = lineBreak := by
      rw [breakAfter, getLast?_render hne]
      rfl
    rw [render_eq_layOut, upsert_layOut_new isHead_defaultHeader hslots hgood rfl hc
      (List.forall_mem_map.2 hnew), ← render_eq_layOut, hbreak, hrec, render_eq_layOut,
      List.map_append]
    rfl
  · rw [List.map_append, List.map_cons] at hgood
    rw [hrec, render_eq_layOut, render_eq_layOut, List.map_append, List.map_cons,
      upsert_layOut_found isHead_defaultHeader hgood rfl hc (List.forall_mem_map.2 hfront) hold,
      List.map_append, List.map_cons]
    rfl

/-- The first upsert writes the header as well. -/
theorem upsert_nil {c : Call} (hc : c.IsPlain) :
    upsert [] c.name c.code c.attr none = render [c.query] := by
  rw [upsert_eq_declare hc]
  have hnone : declaration? [] c.name = none := rfl
  have hbare : isBareSection [] = true := rfl
  simp [hnone, hbare, newSection, render, lines, Text.strip, Text.stripEnd, dropEndWhile]

/-! ## Any document in slots -/

/-- **An upsert on a document in slots is a step of the map**, and leaves such a document. -/
theorem LaidOut.upsert {t : Text} (h : LaidOut t) {c : Call} (hc : c.IsPlain) :
    LaidOut (upsert t c.name c.code c.attr none) ∧
      queries (Mashup.upsert t c.name c.code c.attr none) = record (queries t) c.query := by
  obtain ⟨hhead, hne, hslots, htrail⟩ := h
  rename_i head slots trail
  have hqueries := queries_layOut hhead hslots htrail
  rcases record_cases (slots.map Slot.query) c.query with
    ⟨hnew, hrec⟩ | ⟨front, old, back, hsplit, hfront, hold, hrec⟩
  · have hnew' : ∀ s ∈ slots, s.query.name ≠ c.name :=
      fun s hs => hnew s.query (List.mem_map_of_mem hs)
    rw [upsert_layOut_new hhead hne hslots htrail hc hnew']
    have hgap : Text.allBlank (trail ++ breakAfter (layOut head slots trail)) = true := by
      rw [Text.allBlank_append, htrail, allBlank_breakAfter]
      rfl
    have hgood := List.forall_mem_append.2
      ⟨hslots, List.forall_mem_singleton.2 (hc.isWritable.slot_isGood hgap)⟩
    refine ⟨.mk hhead (by simp) hgood rfl, ?_⟩
    rw [queries_layOut hhead hgood rfl, hqueries, hrec, List.map_append]
    rfl
  · obtain ⟨before, rest, rfl, rfl, hrest⟩ := List.map_eq_append_iff.1 hsplit
    obtain ⟨s, after, rfl, rfl, rfl⟩ := List.map_eq_cons_iff.1 hrest
    have hfront' : ∀ s ∈ before, s.query.name ≠ c.name :=
      fun s hs => hfront s.query (List.mem_map_of_mem hs)
    rw [upsert_layOut_found hhead hslots htrail hc hfront' hold]
    obtain ⟨hbefore, hrest⟩ := List.forall_mem_append.1 hslots
    obtain ⟨hs, hafter⟩ := List.forall_mem_cons.1 hrest
    have hgood := List.forall_mem_append.2
      ⟨hbefore, List.forall_mem_cons.2 ⟨hc.isWritable.slot_isGood hs.blank, hafter⟩⟩
    refine ⟨.mk hhead (by simp) hgood htrail, ?_⟩
    rw [queries_layOut hhead hgood htrail, hqueries, hrec, List.map_append, List.map_cons]
    rfl

/-- The first upsert on no document leaves one slot. -/
theorem laidOut_upsert_nil {c : Call} (hc : c.IsPlain) :
    LaidOut (Mashup.upsert [] c.name c.code c.attr none) := by
  rw [upsert_nil hc, render_eq_layOut]
  exact .mk isHead_defaultHeader (List.cons_ne_nil _ _) (forall_slot_isGood
    (List.forall_mem_singleton.2 hc.isWritable)) rfl

/-! ## Sequences of upserts -/

/-- The document after a sequence of calls that begins with no document at all. -/
def upserts (calls : List Call) : Text :=
  calls.foldl (fun t c => upsert t c.name c.code c.attr none) []

/-- The query of the last call with a name. -/
def latest (calls : List Call) (name : Text) : Option Query :=
  (calls.reverse.find? fun c => c.name == name).map Call.query

/-- The map that a sequence of calls makes. -/
def recorded (calls : List Call) : List Query := calls.foldl (fun qs c => record qs c.query) []

theorem recorded_append (calls : List Call) (c : Call) :
    recorded (calls ++ [c]) = record (recorded calls) c.query := by
  simp [recorded]

theorem mem_recorded {calls : List Call} {q : Query} (h : q ∈ recorded calls) :
    ∃ c ∈ calls, c.query = q := by
  induction calls using List.reverseRecOn with
  | nil => simp [recorded] at h
  | append_singleton calls c ih =>
    rw [recorded_append] at h
    rcases mem_record h with rfl | h
    · exact ⟨c, by simp, rfl⟩
    · obtain ⟨c', hc', hq⟩ := ih h
      exact ⟨c', List.mem_append_left _ hc', hq⟩

theorem map_name_recorded (calls : List Call) :
    (recorded calls).map Query.name = (calls.map Call.name).eraseDups := by
  induction calls using List.reverseRecOn with
  | nil => rfl
  | append_singleton calls c ih =>
    have hname : c.query.name = c.name := rfl
    rw [recorded_append, map_name_record, ih, hname, List.map_append, List.eraseDups_append]
    generalize calls.map Call.name = names
    by_cases hc : c.name ∈ names
    · simp [hc, List.removeAll]
    · simp [hc, List.removeAll, List.eraseDups_cons]

theorem nodup_recorded (calls : List Call) : ((recorded calls).map Query.name).Nodup := by
  induction calls using List.reverseRecOn with
  | nil => exact List.nodup_nil
  | append_singleton calls c ih =>
    rw [recorded_append, map_name_record]
    split
    · exact ih
    · rename_i hnew
      refine List.nodup_append.2 ⟨ih, by simp, fun a ha b hb => ?_⟩
      rintro rfl
      exact hnew (List.mem_singleton.1 hb ▸ ha)

/-- A query in the map is the new one or has another name. -/
theorem eq_of_mem_record {qs : List Query} (hnodup : (qs.map Query.name).Nodup) {q p : Query}
    (h : p ∈ record qs q) (hname : p.name = q.name) : p = q := by
  rcases record_cases qs q with ⟨hnew, hrec⟩ | ⟨front, old, back, rfl, hfront, hold, hrec⟩
  · rw [hrec, List.mem_append, List.mem_singleton] at h
    exact h.resolve_left fun hp => hnew p hp hname
  · rw [hrec] at h
    rcases List.mem_append.1 h with h | h
    · exact absurd hname (hfront p h)
    · rcases List.mem_cons.1 h with rfl | h
      · rfl
      · -- a second query of that name behind the one that was replaced
        rw [List.map_append, List.map_cons] at hnodup
        have hback := (List.nodup_cons.1 (List.nodup_append.1 hnodup).2.1).1
        exact absurd (List.mem_map.2 ⟨p, h, hname.trans hold.symm⟩) hback

/-- The map holds for each name what the last call with that name wrote. -/
theorem latest_of_mem_recorded {calls : List Call} {q : Query} (h : q ∈ recorded calls) :
    latest calls q.name = some q := by
  induction calls using List.reverseRecOn with
  | nil => simp [recorded] at h
  | append_singleton calls c ih =>
    rw [recorded_append] at h
    rw [latest, List.reverse_append, List.reverse_singleton, List.singleton_append]
    by_cases hname : c.name = q.name
    · rw [List.find?_cons_of_pos (by simpa using hname), Option.map_some,
        eq_of_mem_record (nodup_recorded calls) h hname.symm]
    · rw [List.find?_cons_of_neg (by simpa using hname)]
      refine ih ((mem_record h).resolve_left ?_)
      rintro rfl
      exact hname rfl

theorem upserts_append (calls : List Call) (c : Call) :
    upserts (calls ++ [c]) = upsert (upserts calls) c.name c.code c.attr none := by
  simp [upserts]

theorem recorded_ne_nil {calls : List Call} (h : calls ≠ []) : recorded calls ≠ [] := by
  intro hnil
  have hnames := map_name_recorded calls
  obtain ⟨c, rest, rfl⟩ := List.exists_cons_of_ne_nil h
  rw [hnil] at hnames
  simp [List.eraseDups_cons] at hnames

/-- What holds of the queries of all calls holds of those in the map. -/
theorem forall_mem_recorded {P : Query → Prop} {calls : List Call} (h : ∀ c ∈ calls, P c.query) :
    ∀ q ∈ recorded calls, P q := by
  intro q hq
  obtain ⟨c, hc, rfl⟩ := mem_recorded hq
  exact h c hc

/-- The document is the rendering of the map. -/
theorem upserts_eq_render {calls : List Call} (h : ∀ c ∈ calls, c.IsPlain) (hne : calls ≠ []) :
    upserts calls = render (recorded calls) := by
  induction calls using List.reverseRecOn with
  | nil => exact absurd rfl hne
  | append_singleton calls c ih =>
    have hcalls : ∀ c ∈ calls, c.IsPlain := fun c hc => h c (List.mem_append_left _ hc)
    have hc : c.IsPlain := h c (by simp)
    rw [upserts_append, recorded_append]
    rcases List.eq_nil_or_concat calls with rfl | hcons
    · exact upsert_nil hc
    · have hne' : calls ≠ [] := by
        obtain ⟨_, _, rfl⟩ := hcons
        simp
      have hwritable := forall_mem_recorded fun c hc => (hcalls c hc).isWritable
      rw [ih hcalls hne', upsert_render (recorded_ne_nil hne') hwritable hc]

/-- **Upserts from nothing are a map in order of insertion**: the names stand in the order of their
first calls, and each query is that of the last call with its name. -/
theorem queries_upserts {calls : List Call} (h : ∀ c ∈ calls, c.IsPlain) :
    (queries (upserts calls)).map Query.name = (calls.map Call.name).eraseDups ∧
      ∀ q ∈ queries (upserts calls), latest calls q.name = some q := by
  have hqueries : queries (upserts calls) = recorded calls := by
    rcases List.eq_nil_or_concat calls with rfl | hcons
    · rfl
    · have hne : calls ≠ [] := by
        obtain ⟨_, _, rfl⟩ := hcons
        simp
      rw [upserts_eq_render h hne,
        queries_render (forall_mem_recorded fun c hc => (h c hc).isWritable)]
  rw [hqueries]
  exact ⟨map_name_recorded calls, fun q hq => latest_of_mem_recorded hq⟩

/-- Two queries, one of them with an awkward name and a bracket in a string, and the first of them
written again with an attribute. -/
def sampleCalls : List Call :=
  [⟨text "Orders", text "let a = \"];\" in a", none⟩,
    ⟨text "Net \"total\"", text " 1 // one", some (text "  ")⟩,
    ⟨text "Orders", text "let b = [c = 2] in b", some (text " [Kind = \"shared\"]\n")⟩]

theorem queries_upserts_sampleCalls :
    (∀ c ∈ sampleCalls, c.IsPlain) ∧
      (queries (upserts sampleCalls)).map Query.name = [text "Orders", text "Net \"total\""] ∧
      ∀ q ∈ queries (upserts sampleCalls), latest sampleCalls q.name = some q := by
  have hplain : ∀ c ∈ sampleCalls, c.IsPlain := by
    have hattr : Attribute.given? (some (text " [Kind = \"shared\"]\n")) =
        some (text "[Kind = \"shared\"]") := by decide +kernel
    simp only [sampleCalls, List.forall_mem_cons, List.not_mem_nil, false_imp_iff, implies_true,
      and_true]
    refine ⟨⟨by decide, by decide, by decide +kernel, by decide +kernel, nofun⟩,
      ⟨by decide, by decide, by decide +kernel, by decide +kernel, nofun⟩,
      ⟨by decide, by decide, by decide +kernel, by decide +kernel, ?_⟩⟩
    rw [hattr]
    rintro a ⟨rfl⟩
    decide +kernel
  exact ⟨hplain, queries_upserts hplain⟩

end Mashup
end Dataflow
