import Dataflow.Proofs.Appending

/-!
# Documents of declarations that stand by themselves

A document as editors write it is a head, such as a section header with its attribute, and
declarations with blanks between them.  When each declaration is `Sealed` and is all that is read of
its own text, it is found where it stands.  What a `Slot` holds may be written in any way; it need
not be in the form in which an upsert writes.

The offsets at which `declarations` finds everything in such a layout are known in closed form,
`slotPlaces`, so the splice that replaces a query cuts the text at two seams of the layout.
Documents of this kind are `LaidOut`, and they are what the rest of the theory asks for when it
speaks of documents in order.
-/

set_option autoImplicit false

namespace Dataflow
namespace Mashup

/-! ## Slots -/

/-- A declaration with the blanks in front of it. -/
structure Slot where
  /-- The blanks. -/
  gap : Text
  /-- The text of the declaration. -/
  text : Text
  /-- The query that is declared. -/
  query : Query

/-- A slot whose declaration stands by itself. -/
structure Slot.IsGood (s : Slot) : Prop where
  /-- Nothing stands in front. -/
  blank : Text.allBlank s.gap = true
  /-- The text does not interfere with what follows. -/
  isSealed : Sealed s.text
  /-- All of the text is one declaration. -/
  declared : declarations s.text =
    [⟨s.query.name, s.query.code, s.query.attr, 0, s.text.length⟩]

/-- The text of some slots. -/
def slotsText (slots : List Slot) : Text := slots.flatMap fun s => s.gap ++ s.text

/-- A document with a head, some slots and blanks at the end. -/
def layOut (head : Text) (slots : List Slot) (trail : Text) : Text :=
  head ++ (slotsText slots ++ trail)

/-- Where the declarations of some slots lie when the first gap begins at an offset. -/
def slotPlaces : (pos : Nat) → List Slot → List Declaration
  | _, [] => []
  | pos, s :: slots =>
    let start := pos + s.gap.length
    let stop := start + s.text.length
    ⟨s.query.name, s.query.code, s.query.attr, start, stop⟩ :: slotPlaces stop slots

theorem slotsText_nil : slotsText [] = [] := rfl

theorem slotsText_cons (s : Slot) (slots : List Slot) :
    slotsText (s :: slots) = s.gap ++ (s.text ++ slotsText slots) := by
  rw [slotsText, List.flatMap_cons, List.append_assoc, slotsText]

theorem slotsText_append (front back : List Slot) :
    slotsText (front ++ back) = slotsText front ++ slotsText back := List.flatMap_append

theorem slotPlaces_shift (n pos : Nat) (slots : List Slot) :
    slotPlaces (n + pos) slots = (slotPlaces pos slots).map (.shift n) := by
  induction slots generalizing pos with
  | nil => rfl
  | cons s slots ih =>
    simp only [slotPlaces, List.map_cons, Declaration.shift, Nat.add_assoc, ih]

theorem slotPlaces_append (pos : Nat) (front back : List Slot) :
    slotPlaces pos (front ++ back) =
      slotPlaces pos front ++ slotPlaces (pos + (slotsText front).length) back := by
  induction front generalizing pos with
  | nil => rfl
  | cons s front ih =>
    simp only [List.cons_append, slotPlaces, ih, slotsText_cons, List.length_append,
      Nat.add_assoc]

theorem map_query_slotPlaces (pos : Nat) (slots : List Slot) :
    (slotPlaces pos slots).map Declaration.query = slots.map Slot.query := by
  induction slots generalizing pos with
  | nil => rfl
  | cons s slots ih =>
    rw [slotPlaces, List.map_cons, ih]
    rfl

/-- Every slot is found where it was put. -/
theorem declarations_slots {slots : List Slot} (h : ∀ s ∈ slots, s.IsGood) {trail : Text}
    (htrail : Text.allBlank trail = true) :
    Tight (slotsText slots ++ trail) ∧
      declarations (slotsText slots ++ trail) = slotPlaces 0 slots := by
  induction slots with
  | nil =>
    exact ⟨tight_of_allBlank htrail, declarations_of_headings (headings_of_allBlank htrail)⟩
  | cons s slots ih =>
    obtain ⟨hs, hslots⟩ := List.forall_mem_cons.1 h
    obtain ⟨htight, hdecl⟩ := ih hslots
    have hfirst := hs.isSealed.declarations_append htight
    rw [hs.declared, hdecl, List.singleton_append] at hfirst
    have htight' : Tight (s.text ++ (slotsText slots ++ trail)) :=
      tight_of_start (by rw [hfirst]; rfl) rfl
    rw [slotsText_cons, List.append_assoc, List.append_assoc]
    refine ⟨htight'.blank_append hs.blank, ?_⟩
    rw [(sealed_of_allBlank hs.blank).declarations_append htight', hfirst,
      declarations_of_headings (headings_of_allBlank hs.blank), List.nil_append, List.map_cons,
      ← slotPlaces_shift, Nat.add_zero, ← slotPlaces_shift]
    simp only [slotPlaces, Nat.zero_add]
    rfl

/-! ## Heads -/

/-- A text at the beginning of a document that declares nothing and does not interfere with what
follows; a document with more than blanks behind it is not just a section header. -/
structure IsHead (head : Text) : Prop where
  /-- The text does not interfere. -/
  isSealed : Sealed head
  /-- Nothing is declared in it. -/
  headings : headings head = []
  /-- Something behind it counts. -/
  notBare : ∀ v, Text.allBlank v = false → isBareSection (head ++ v) = false

theorem sealed_defaultHeader : Sealed defaultHeader where
  run := by decide
  unreached v o ho hlt := by
    have hmark : (keywordMark (text "shared")).foundAfter none (text "section Section1") = false :=
      by decide
    have hskip := occurrencesFrom_of_not_foundAfter (v := v) keywordMark_of_heading
      (keywordMark_of_barsMark (c := ';') (by decide) v) hmark 0
    have htext : defaultHeader ++ v = text "section Section1" ++ ';' :: v := rfl
    rw [occurrences, htext, hskip] at ho
    have := occurrencesFrom_bounds isLocal_heading o ho
    have hlen : defaultHeader.length = 0 + (text "section Section1").length + 1 := rfl
    omega
  word := by decide
  ending := attributeAtEnd?_eq_none (c := ';') rfl (by decide) (by decide)

theorem headings_defaultHeader : headings defaultHeader = [] := by
  decide

/-- The header that a document without one is given is a head. -/
theorem isHead_defaultHeader : IsHead defaultHeader where
  isSealed := sealed_defaultHeader
  headings := headings_defaultHeader
  notBare v hv := by
    have hstrip : Text.strip (defaultHeader ++ v) = defaultHeader ++ Text.stripEnd v := by
      have hfront : (defaultHeader ++ v).dropWhile isBlank = defaultHeader ++ v := rfl
      rw [Text.strip, hfront, Text.stripEnd_append _ hv]
    have hne : Text.stripEnd v ≠ [] := by
      rw [Ne, Text.stripEnd_eq_nil_iff, hv]
      exact Bool.false_ne_true
    have hnamed : Named (text "section") ';'
        (text "section" ++ ([' '] ++ (text "Section1" ++ ([] ++ [';'])))) (text "Section1") :=
      .mk rfl (by simp) rfl (.bare (by decide) (List.all_eq_true.1 (by decide))) rfl
    have hmatch : sectionHeader none (defaultHeader ++ Text.stripEnd v) =
        some ((), Text.stripEnd v) :=
      sectionHeader_eq_some_iff.2 ⟨rfl, _, _, rfl, hnamed⟩
    obtain ⟨x, rest, hx⟩ := List.exists_cons_of_ne_nil hne
    rw [isBareSection, hstrip, Pattern.isWhole, hmatch, hx]
    rfl

section

variable {head trail : Text} {slots : List Slot}

theorem declarations_layOut (hhead : IsHead head) (h : ∀ s ∈ slots, s.IsGood)
    (htrail : Text.allBlank trail = true) :
    declarations (layOut head slots trail) = slotPlaces head.length slots := by
  obtain ⟨htight, hdecl⟩ := declarations_slots h htrail
  rw [layOut, hhead.isSealed.declarations_append htight,
    declarations_of_headings hhead.headings, hdecl, List.nil_append, ← slotPlaces_shift,
    Nat.add_zero]

theorem queries_layOut (hhead : IsHead head) (h : ∀ s ∈ slots, s.IsGood)
    (htrail : Text.allBlank trail = true) :
    queries (layOut head slots trail) = slots.map Slot.query := by
  rw [queries, declarations_layOut hhead h htrail, map_query_slotPlaces]

theorem Slot.IsGood.not_allBlank {s : Slot} (h : s.IsGood) : Text.allBlank s.text = false := by
  rw [Bool.eq_false_iff]
  intro hblank
  have hnone := declarations_of_headings (headings_of_allBlank hblank)
  rw [h.declared] at hnone
  cases hnone

/-- A document with a slot is more than a header. -/
theorem isBareSection_layOut (hhead : IsHead head) {s : Slot} (hs : s ∈ slots) (hgood : s.IsGood)
    (trail : Text) : isBareSection (layOut head slots trail) = false := by
  refine hhead.notBare _ ?_
  obtain ⟨front, back, rfl⟩ := List.append_of_mem hs
  rw [slotsText_append, slotsText_cons]
  simp only [Text.allBlank_append, hgood.not_allBlank, Bool.false_and, Bool.and_false]

/-! ## One slot -/

theorem find?_slotPlaces_eq_none {name : Text} (h : ∀ s ∈ slots, s.query.name ≠ name) (pos : Nat) :
    (slotPlaces pos slots).find? (·.name == name) = none := by
  induction slots generalizing pos with
  | nil => rfl
  | cons s slots ih =>
    obtain ⟨hs, hslots⟩ := List.forall_mem_cons.1 h
    rw [slotPlaces, List.find?_cons_of_neg (by simpa using hs)]
    exact ih hslots _

/-- A name that no slot declares is not found. -/
theorem declaration?_layOut_new (hhead : IsHead head) (hslots : ∀ s ∈ slots, s.IsGood)
    (htrail : Text.allBlank trail = true) {name : Text} (hnew : ∀ s ∈ slots, s.query.name ≠ name) :
    declaration? (layOut head slots trail) name = none := by
  rw [declaration?, declarations_layOut hhead hslots htrail]
  exact find?_slotPlaces_eq_none hnew _

/-- The first slot of a name is found, and to write in its place is to fill the slot anew. -/
theorem splice_layOut {front back : List Slot} {old : Slot} (hhead : IsHead head)
    (hslots : ∀ s ∈ front ++ old :: back, s.IsGood) (htrail : Text.allBlank trail = true)
    {name : Text} (hfront : ∀ s ∈ front, s.query.name ≠ name) (hold : old.query.name = name)
    (q : Query) (t : Text) :
    ∃ d, declaration? (layOut head (front ++ old :: back) trail) name = some d ∧
      (layOut head (front ++ old :: back) trail).take d.start ++ t ++
          (layOut head (front ++ old :: back) trail).drop d.stop =
        layOut head (front ++ ⟨old.gap, t, q⟩ :: back) trail := by
  have hfind : (slotPlaces head.length (front ++ old :: back)).find? (·.name == name) =
      some ⟨old.query.name, old.query.code, old.query.attr,
        (head ++ slotsText front ++ old.gap).length,
        (head ++ slotsText front ++ old.gap ++ old.text).length⟩ := by
    rw [slotPlaces_append, List.find?_append, find?_slotPlaces_eq_none hfront, Option.none_or,
      slotPlaces, List.find?_cons_of_pos (by simpa using hold)]
    simp only [List.length_append]
  refine ⟨_, (congrArg (List.find? _) (declarations_layOut hhead hslots htrail)).trans hfind, ?_⟩
  have htext : layOut head (front ++ old :: back) trail =
      (head ++ slotsText front ++ old.gap) ++ (old.text ++ (slotsText back ++ trail)) := by
    simp only [layOut, slotsText_append, slotsText_cons, List.append_assoc]
  rw [htext, List.take_left, ← List.append_assoc (head ++ slotsText front ++ old.gap),
    List.drop_left]
  simp only [layOut, slotsText_append, slotsText_cons, List.append_assoc]

/-- A document that is laid out in slots, at least one. -/
inductive LaidOut : Text → Prop where
  | mk {head : Text} {slots : List Slot} {trail : Text} (hhead : IsHead head)
      (hne : slots ≠ []) (hslots : ∀ s ∈ slots, s.IsGood) (htrail : Text.allBlank trail = true) :
      LaidOut (layOut head slots trail)

end

end Mashup
end Dataflow
