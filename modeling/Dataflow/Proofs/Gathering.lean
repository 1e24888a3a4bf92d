import Dataflow.Metadata.Connection
import Dataflow.Proofs.Blank
import Dataflow.Proofs.Storage
import Mathlib.Data.List.Induction

/-!
# Lists of ids

The ids of connections are given as a list, or as a text in which such a list is written as JSON.
The text is stripped before it is looked at, so blanks around it do not matter, and the list is read
back from it as it was printed.  What is then gathered from the list is the same for both.

Gathering goes through the list with the ids seen before in hand.  `Connection.idsAmong_eq` has it
without them, as a filter of the list with duplicates erased, and what has to be known of the result
is known of that.
-/

set_option autoImplicit false

namespace Dataflow

/-! ## Blanks around a text -/

namespace WideText

/-- Blanks around a text are dropped when it neither begins nor ends with one. -/
theorem strip_padded {front back inner : WideText} {first last : CodePoint}
    (hfront : ∀ p ∈ front, p.isBlank = true) (hback : ∀ p ∈ back, p.isBlank = true)
    (hfirst : first.isBlank = false) (hlast : last.isBlank = false) :
    strip (front ++ (first :: inner ++ [last]) ++ back) = first :: inner ++ [last] := by
  have hbegin : (front ++ (first :: inner ++ [last]) ++ back).dropWhile CodePoint.isBlank =
      first :: inner ++ [last] ++ back := by
    rw [List.append_assoc, List.dropWhile_append_of_pos hfront]
    exact List.dropWhile_cons_of_neg (by simp [hfirst])
  rw [strip, hbegin, dropEndWhile, List.reverse_append,
    List.dropWhile_append_of_pos (by simpa using hback), List.reverse_concat,
    List.dropWhile_cons_of_neg (by simp [hlast]), ← List.reverse_concat, List.reverse_reverse]

end WideText

/-! ## Lists on one line -/

namespace Json

/-- The layout of a value on one line, ASCII only. -/
def Layout.line : Layout := ⟨none, ", ", ": ", true⟩

theorem Layout.line_isReadable : line.IsReadable IsJoined where
  comma := ⟨[' '], rfl, by simp [AllSpace, isSpace]⟩
  colon := ⟨[' '], rfl, by simp [AllSpace, isSpace]⟩
  joined _ _ hs _ := hs

/-- A list is printed in brackets. -/
theorem exists_print_array (l : Layout) (items : List Json) :
    ∃ inner, (array items).print l = wide "[" ++ inner ++ wide "]" := by
  cases items with
  | nil => exact ⟨[], rfl⟩
  | cons item rest =>
    refine ⟨l.lineStart 1 ++ printAt l 1 item ++ printItems l 1 rest ++ l.lineStart 0, ?_⟩
    simp [print, printAt, List.append_assoc]

end Json

/-! ## Each item once -/

section

variable {α : Type} [BEq α] [LawfulBEq α]

theorem nodup_eraseDups (xs : List α) : xs.eraseDups.Nodup := by
  induction xs using List.reverseRecOn with
  | nil => exact List.nodup_nil
  | append_singleton xs x ih =>
    rw [List.eraseDups_append]
    by_cases hx : x ∈ xs
    · simpa [List.removeAll, hx] using ih
    · have hne : ∀ a ∈ xs, a ≠ x := fun a ha heq => hx (heq ▸ ha)
      simpa [List.removeAll, hx, List.nodup_append, List.eraseDups_cons] using ⟨ih, hne⟩

/-- What stands in a list only once each is kept. -/
theorem eraseDups_of_nodup {xs : List α} (h : xs.Nodup) : xs.eraseDups = xs := by
  induction xs with
  | nil => rfl
  | cons x xs ih =>
    obtain ⟨hx, hxs⟩ := List.nodup_cons.1 h
    rw [List.eraseDups_cons, List.filter_eq_self.2, ih hxs]
    intro y hy
    have hne : y ≠ x := fun heq => hx (heq ▸ hy)
    simpa using hne

end

namespace Connection

/-! ## The ids among some values -/

/-- The id that a value names. -/
def namedId? : Json → Option WideText
  | .string s => if (WideText.strip s).isEmpty then none else some (WideText.strip s)
  | _ => none

/-- The ids are those that the values name, less those seen before, each where it comes first. -/
theorem idsAmong_eq (seen : List WideText) (items : List Json) :
    idsAmong seen items =
      ((items.filterMap namedId?).filter fun id => !seen.contains id).eraseDups := by
  fun_induction idsAmong seen items with
  | case1 seen => rfl
  | case2 seen s rest id hskip ih =>
    rw [ih]
    by_cases hempty : id.isEmpty
    · have hnone : namedId? (.string s) = none := if_pos hempty
      rw [List.filterMap_cons_none hnone]
    · have hsome : namedId? (.string s) = some id := if_neg hempty
      have hseen : seen.contains id = true := by simpa [hempty] using hskip
      rw [List.filterMap_cons_some hsome, List.filter_cons_of_neg (by simpa using hseen)]
  | case3 seen s rest id hkeep ih =>
    obtain ⟨hempty, hnew⟩ : id.isEmpty = false ∧ seen.contains id = false := by simpa using hkeep
    have hsome : namedId? (.string s) = some id := if_neg (by simpa using hempty)
    have hcontains : ∀ x, (!(seen ++ [id]).contains x) = ((!x == id) && !seen.contains x) := by
      intro x
      rw [List.contains_append, List.contains_cons, List.contains_nil, Bool.or_false, Bool.not_or,
        Bool.and_comm]
    rw [ih, List.filterMap_cons_some hsome, List.filter_cons_of_pos (by simpa using hnew),
      List.eraseDups_cons, List.filter_filter, funext hcontains]
  | case4 seen item rest hitem ih =>
    rw [ih, List.filterMap_cons_none]
    cases item <;> first | rfl | exact absurd rfl (hitem _)

/-- The ids of a list are those that its items name, each where it comes first. -/
theorem ids_array (items : List Json) :
    ids (.array items) = .ok (items.filterMap namedId?).eraseDups := by
  have hall : (items.filterMap namedId?).filter (fun id => !([] : List WideText).contains id) =
      items.filterMap namedId? := List.filter_eq_self.2 fun _ _ => rfl
  rw [ids, idsAmong_eq, hall]

/-! ## Lists of strings -/

/-- A list of strings as a value. -/
def listOf (xs : List WideText) : Json := .array (xs.map .string)

/-- The strings of a list without blanks around them, the empty ones left out and each only once,
where it comes first. -/
def distinctIds (xs : List WideText) : List WideText :=
  ((xs.map WideText.strip).filter fun id => !id.isEmpty).eraseDups

theorem filterMap_namedId?_string (xs : List WideText) :
    (xs.map Json.string).filterMap namedId? =
      (xs.map WideText.strip).filter fun id => !id.isEmpty := by
  induction xs with
  | nil => rfl
  | cons x xs ih =>
    rw [List.map_cons, List.map_cons, List.filterMap_cons, List.filter_cons, ih, namedId?]
    cases (WideText.strip x).isEmpty <;> rfl

theorem ids_listOf (xs : List WideText) : ids (listOf xs) = .ok (distinctIds xs) := by
  rw [listOf, ids_array, filterMap_namedId?_string, distinctIds]

theorem mem_distinctIds {xs : List WideText} {id : WideText} :
    id ∈ distinctIds xs ↔ id ≠ [] ∧ ∃ x ∈ xs, WideText.strip x = id := by
  rw [distinctIds, List.mem_eraseDups, List.mem_filter, List.mem_map, and_comm]
  simp

/-- What comes later in a list does not change the ids before it nor their order. -/
theorem distinctIds_append_prefix (xs ys : List WideText) :
    distinctIds xs <+: distinctIds (xs ++ ys) := by
  rw [distinctIds, distinctIds, List.map_append, List.filter_append, List.eraseDups_append]
  exact List.prefix_append _ _

/-- Ids that are gathered already stay as they are. -/
theorem distinctIds_eq_self {ids : List WideText} (hnodup : ids.Nodup)
    (hids : ∀ id ∈ ids, id ≠ [] ∧ WideText.strip id = id) : distinctIds ids = ids := by
  have hstrip : ids.map WideText.strip = ids :=
    List.map_congr_left (fun id hid => (hids id hid).2) |>.trans (List.map_id ids)
  rw [distinctIds, hstrip, List.filter_eq_self.2, eraseDups_of_nodup hnodup]
  intro id hid
  simpa using (hids id hid).1

/-! ## Lists in a text -/

/-- A text that holds a list, with blanks around it or not, names the ids of the list. -/
theorem ids_string {items : List Json} (hitems : ∀ v ∈ items, v.Tidy Json.IsText)
    {front back : WideText} (hfront : ∀ p ∈ front, p.isBlank = true)
    (hback : ∀ p ∈ back, p.isBlank = true) :
    ids (.string (front ++ (Json.array items).print .line ++ back)) = ids (.array items) := by
  have htidy : (Json.array items).Tidy Json.IsText := .array hitems
  obtain ⟨t, ht⟩ : Json.IsText ((Json.array items).print .line) := Json.isText_printAt htidy 0
  obtain ⟨inner, hinner⟩ := Json.exists_print_array .line items
  have hread : Json.read t = .ok (.array items) :=
    Json.read_print Json.Layout.line_isReadable
      (htidy.mono fun _ ⟨u, hu⟩ => hu ▸ Json.isJoined_widen u) ht
  have hstrip :
      WideText.strip (front ++ (Json.array items).print .line ++ back) = Text.widen t := by
    rw [← ht, hinner]
    exact WideText.strip_padded hfront hback rfl rfl
  obtain ⟨rest, rfl⟩ : ∃ rest, t = '[' :: rest := by
    cases t with
    | nil => simp [hinner, wide, Text.widen] at ht
    | cons c rest =>
      rw [hinner] at ht
      cases (List.cons.inj ht).1
      exact ⟨rest, rfl⟩
  have hall : itemsOfText (WideText.strip (front ++ (Json.array items).print .line ++ back)) =
      .ok items := by
    have hwide := (Json.readWide_widen ('[' :: rest)).trans hread
    rw [hstrip]
    simp only [itemsOfText, Text.widen, List.map_cons] at hwide ⊢
    rw [hwide]
  exact congrArg (Except.map (idsAmong [])) hall

/-- **A list of ids means the same as a list and as a text.**  For all strings that are texts, and
any blanks around the text in which the list is printed, the ids are the strings that are not
blank, without the blanks around them, each only once and in the order in which they come first.
Read as a list again they stay as they are. -/
theorem ids_printed {xs : List WideText} (hxs : ∀ x ∈ xs, Json.IsText x) {front back : WideText}
    (hfront : ∀ p ∈ front, p.isBlank = true) (hback : ∀ p ∈ back, p.isBlank = true) :
    ids (.string (front ++ (listOf xs).print .line ++ back)) = .ok (distinctIds xs) ∧
      ids (listOf xs) = .ok (distinctIds xs) ∧
      (distinctIds xs).Nodup ∧
      (∀ id ∈ distinctIds xs, id ≠ [] ∧ WideText.strip id = id) ∧
      (∀ id, id ∈ distinctIds xs ↔ id ≠ [] ∧ ∃ x ∈ xs, WideText.strip x = id) ∧
      (∀ ys, ys <+: xs → distinctIds ys <+: distinctIds xs) ∧
      ids (listOf (distinctIds xs)) = .ok (distinctIds xs) := by
  have htidy : ∀ v ∈ xs.map Json.string, v.Tidy Json.IsText :=
    List.forall_mem_map.2 fun x hx => .string (hxs x hx)
  have hnodup : (distinctIds xs).Nodup := nodup_eraseDups _
  have hids : ∀ id ∈ distinctIds xs, id ≠ [] ∧ WideText.strip id = id := by
    intro id hid
    obtain ⟨hne, x, hx, rfl⟩ := mem_distinctIds.1 hid
    obtain ⟨t, rfl⟩ := hxs x hx
    exact ⟨hne, by rw [WideText.strip_widen, WideText.strip_widen, Text.strip_strip]⟩
  refine ⟨?_, ids_listOf xs, hnodup, hids, fun _ => mem_distinctIds, ?_, ?_⟩
  · exact (ids_string htidy hfront hback).trans (ids_listOf xs)
  · rintro ys ⟨zs, rfl⟩
    exact distinctIds_append_prefix ys zs
  · rw [ids_listOf, distinctIds_eq_self hnodup hids]

/-- Ids that are escaped in a text, with blanks of several kinds, some of them twice. -/
def sampleIds : List WideText :=
  [wide " a\"b\t", wide "", wide "c\\😀", wide "\u00a0\u3000", wide "a\"b", wide "\u2028c\\😀"]

theorem ids_printed_sampleIds :
    (listOf sampleIds).print .line =
        wide ("[\" a\\\"b\\t\", \"\", \"c\\\\\\ud83d\\ude00\", \"\\u00a0\\u3000\", \"a\\\"b\", " ++
          "\"\\u2028c\\\\\\ud83d\\ude00\"]") ∧
      ids (.string (wide "\n\u3000" ++ (listOf sampleIds).print .line ++ wide " ")) =
        .ok [wide "a\"b", wide "c\\😀"] ∧
      ids (listOf [wide "a\"b", wide "c\\😀"]) =
        .ok [wide "a\"b", wide "c\\😀"] := by
  have htexts : ∀ x ∈ sampleIds, Json.IsText x := by
    simp only [sampleIds, List.forall_mem_cons]
    exact ⟨Json.isText_wide _, Json.isText_wide _, Json.isText_wide _, Json.isText_wide _,
      Json.isText_wide _, Json.isText_wide _, by simp⟩
  have hids : distinctIds sampleIds = [wide "a\"b", wide "c\\😀"] := by decide
  have hall := @ids_printed sampleIds htexts (wide "\n\u3000") (wide " ") (by decide) (by decide)
  rw [hids] at hall
  obtain ⟨hstring, -, -, -, -, -, hagain⟩ := hall
  exact ⟨by decide +kernel, hstring, hagain⟩

end Connection
end Dataflow
