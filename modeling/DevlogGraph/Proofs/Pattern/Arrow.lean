import DevlogGraph.Proofs.Name
import DevlogGraph.Proofs.Pattern.Split
import DevlogGraph.Proofs.Text.Lines

/-! What relationship lines yield: blanks at the end of a line do not count, an empty line says
nothing, and so the edges of a text are those of its parts between the line feeds. -/
namespace DevlogGraph.Pattern

open Text

/-- Only blanks. -/
def Blanks (text : List Char) : Prop := ∀ c ∈ text, isBlank c = true

theorem Blanks.head {blanks : List Char} (blank : Blanks blanks) (nonempty : blanks ≠ [])
    (rest : List Char) : (blanks ++ rest).head?.any isBlank = true := by
  cases blanks with
  | nil => exact absurd rfl nonempty
  | cons c later => simpa using blank c (by simp)

theorem trimStart_blanks_append {blanks rest : List Char} (blank : Blanks blanks)
    (visible : rest.head?.any isBlank = false) : trimStart (blanks ++ rest) = rest := by
  rw [trimStart_append_blank blank, trimStart_of_head visible]

/-- A visible start cannot lie among blanks at the end. -/
private theorem visible_append {before text rest blanks : List Char} (blank : Blanks blanks)
    (visible : rest.head?.any isBlank = false) (nonempty : rest ≠ [])
    (same : text ++ blanks = before ++ rest) :
    ∃ front, text = before ++ front ∧ rest = front ++ blanks ∧ front ≠ [] := by
  rcases List.append_eq_append_iff.mp same with
    ⟨more, before_eq, blanks_eq⟩ | ⟨front, text_eq, rest_eq⟩
  · cases rest with
    | nil => exact absurd rfl nonempty
    | cons c later =>
      have hidden := blank c (by simp [blanks_eq])
      simp [hidden] at visible
  · refine ⟨front, text_eq, rest_eq, ?_⟩
    rintro rfl
    rw [List.nil_append] at rest_eq
    subst rest_eq
    have hidden := blank.head nonempty []
    rw [List.append_nil] at hidden
    rw [hidden] at visible
    cases visible

/-- The blanks at the start of a text that does start with a blank. -/
theorem leading_blanks {text : List Char} (starts : text.head?.any isBlank = true) :
    ∃ blanks, Blanks blanks ∧ blanks ≠ [] ∧ text = blanks ++ trimStart text := by
  obtain ⟨blanks, blank, split⟩ := trimStart_split text
  refine ⟨blanks, blank, ?_, split⟩
  rintro rfl
  rw [List.nil_append] at split
  rw [split, trimStart_head] at starts
  cases starts

/-- An arrow stands between blanks, and something visible follows. -/
theorem arrowTarget_eq_some_iff : arrowTarget? text = some target ↔
    ∃ blanks gap, Blanks blanks ∧ blanks ≠ [] ∧ Blanks gap ∧ gap ≠ [] ∧
      text = blanks ++ '-' :: '>' :: (gap ++ target) ∧ target ≠ [] ∧
      target.head?.any isBlank = false := by
  constructor
  · intro found
    unfold arrowTarget? at found
    split at found
    · rename_i starts
      split at found
      · rename_i rest arrow
        split at found
        · rename_i follows
          rw [Bool.and_eq_true] at follows
          cases found
          obtain ⟨blanks, blank, some_blanks, front⟩ := leading_blanks starts
          obtain ⟨gap, gap_blank, some_gap, back⟩ := leading_blanks follows.1
          refine ⟨blanks, gap, blank, some_blanks, gap_blank, some_gap, ?_, ?_, trimStart_head rest⟩
          · rw [← back, ← arrow, ← front]
          · simpa using follows.2
        · cases found
      · cases found
    · cases found
  · rintro ⟨blanks, gap, blank, some_blanks, gap_blank, some_gap, rfl, nonempty, visible⟩
    have starts := blank.head some_blanks ('-' :: '>' :: (gap ++ target))
    have follows := gap_blank.head some_gap target
    have arrow : trimStart (blanks ++ '-' :: '>' :: (gap ++ target)) =
        '-' :: '>' :: (gap ++ target) :=
      trimStart_blanks_append blank rfl
    unfold arrowTarget?
    rw [if_pos starts, arrow]
    simp only [follows, trimStart_blanks_append gap_blank visible, Bool.true_and]
    rw [if_pos (by simpa using nonempty)]

/-- A kind in parentheses is set off by blanks and has no closing parenthesis inside. -/
theorem parenthesised_eq_some_iff : parenthesised? text = some kind ↔
    ∃ blanks, Blanks blanks ∧ blanks ≠ [] ∧ text = blanks ++ '(' :: (kind ++ [')']) ∧
      ')' ∉ kind := by
  constructor
  · intro found
    unfold parenthesised? at found
    split at found
    · rename_i starts
      split at found
      · rename_i rest opened
        split at found
        · rename_i closed
          rw [Bool.and_eq_true, decide_eq_true_eq] at closed
          cases found
          obtain ⟨blanks, blank, some_blanks, front⟩ := leading_blanks starts
          obtain ⟨inside, ends⟩ := List.getLast?_eq_some_iff.mp closed.1
          have kept : rest.dropLast = inside := by rw [ends, List.dropLast_concat]
          refine ⟨blanks, blank, some_blanks, ?_, by simpa using closed.2⟩
          rw [kept, ← ends, ← opened, ← front]
        · cases found
      · cases found
    · cases found
  · rintro ⟨blanks, blank, some_blanks, rfl, closed⟩
    have starts := blank.head some_blanks ('(' :: (kind ++ [')']))
    have opened : trimStart (blanks ++ '(' :: (kind ++ [')'])) = '(' :: (kind ++ [')']) :=
      trimStart_blanks_append blank rfl
    unfold parenthesised?
    rw [if_pos starts, opened]
    simp [closed]

/-- An item has a dash and a blank before it. -/
theorem itemText_eq_some_iff : itemText line = some item ↔
    ∃ blanks gap, Blanks blanks ∧ Blanks gap ∧ gap ≠ [] ∧ line = blanks ++ '-' :: (gap ++ item) ∧
      item.head?.any isBlank = false := by
  constructor
  · intro found
    unfold itemText at found
    split at found
    · rename_i rest dash
      split at found
      · rename_i follows
        cases found
        obtain ⟨blanks, blank, front⟩ := trimStart_split line
        obtain ⟨gap, gap_blank, some_gap, back⟩ := leading_blanks follows
        refine ⟨blanks, gap, blank, gap_blank, some_gap, ?_, trimStart_head rest⟩
        rw [← back, ← dash, ← front]
      · cases found
    · cases found
  · rintro ⟨blanks, gap, blank, gap_blank, some_gap, rfl, visible⟩
    have dash : trimStart (blanks ++ '-' :: (gap ++ item)) = '-' :: (gap ++ item) :=
      trimStart_blanks_append blank rfl
    have follows := gap_blank.head some_gap item
    unfold itemText
    simp only [dash, follows, trimStart_blanks_append gap_blank visible, if_true]

private theorem arrowTarget_append_blanks (blank : Blanks blanks) (text : List Char) :
    arrowTarget? (text ++ blanks) = (arrowTarget? text).map (· ++ blanks) := by
  apply Option.ext
  intro target
  rw [Option.map_eq_some_iff, arrowTarget_eq_some_iff]
  constructor
  · rintro ⟨before, gap, before_blank, some_before, gap_blank, some_gap, cut, nonempty, visible⟩
    have cut_target : text ++ blanks = (before ++ '-' :: '>' :: gap) ++ target := by simpa using cut
    obtain ⟨front, text_eq, rfl, some_front⟩ := visible_append blank visible nonempty cut_target
    refine ⟨front, arrowTarget_eq_some_iff.mpr ⟨before, gap, before_blank, some_before, gap_blank,
      some_gap, by simpa using text_eq, some_front, ?_⟩, rfl⟩
    cases front with
    | nil => exact absurd rfl some_front
    | cons c rest => simpa using visible
  · rintro ⟨front, found, rfl⟩
    obtain ⟨before, gap, before_blank, some_before, gap_blank, some_gap, rfl, some_front,
      visible⟩ := arrowTarget_eq_some_iff.mp found
    refine ⟨before, gap, before_blank, some_before, gap_blank, some_gap, by simp,
      by simp [some_front], ?_⟩
    cases front with
    | nil => exact absurd rfl some_front
    | cons c rest => simpa using visible

/-- An arrow needs something visible, so blanks alone hold none. -/
private theorem arrowTarget_blanks (blank : Blanks blanks) : arrowTarget? blanks = none := by
  have appended := arrowTarget_append_blanks blank []
  rwa [List.nil_append] at appended

private theorem splitArrow_append_blanks (blank : Blanks blanks) (text : List Char) :
    splitArrow (text ++ blanks) =
      (splitArrow text).map fun (source, target) => (source, target ++ blanks) := by
  rw [splitArrow_eq, splitArrow_eq]
  refine splitFirst_append (arrowTarget_append_blanks blank) ?_ text
  intro first second cut _
  apply arrowTarget_blanks
  intro c member
  exact blank c (by rw [cut]; simp [member])

private theorem itemText_append_blanks (some_front : front ≠ []) :
    itemText (line ++ blanks) = some (front ++ blanks) ↔ itemText line = some front := by
  have same_head : (front ++ blanks).head? = front.head? := by
    cases front with
    | nil => exact absurd rfl some_front
    | cons c rest => rfl
  rw [itemText_eq_some_iff, itemText_eq_some_iff, same_head]
  constructor
  · rintro ⟨before, gap, before_blank, gap_blank, some_gap, cut, visible⟩
    have ends : line ++ blanks = before ++ '-' :: (gap ++ front) ++ blanks := by simpa using cut
    exact ⟨before, gap, before_blank, gap_blank, some_gap, List.append_cancel_right ends, visible⟩
  · rintro ⟨before, gap, before_blank, gap_blank, some_gap, rfl, visible⟩
    exact ⟨before, gap, before_blank, gap_blank, some_gap, by simp, visible⟩

/-- Blanks at the end of a line go to what stands behind its arrow. -/
private theorem item_split_append_blanks (blank : Blanks blanks) (line : List Char) :
    (itemText (line ++ blanks)).bind splitArrow =
      ((itemText line).bind splitArrow).map fun (source, target) => (source, target ++ blanks) := by
  apply Option.ext
  rintro ⟨source, rest⟩
  rw [Option.map_eq_some_iff]
  simp only [Option.bind_eq_some_iff]
  constructor
  · rintro ⟨item, found, split⟩
    have some_item : item ≠ [] := by
      rintro rfl
      cases split
    obtain ⟨before, gap, _, _, _, cut, visible⟩ := itemText_eq_some_iff.mp found
    have parts : line ++ blanks = (before ++ '-' :: gap) ++ item := by simpa using cut
    obtain ⟨front, _, rfl, some_front⟩ := visible_append blank visible some_item parts
    rw [splitArrow_append_blanks blank, Option.map_eq_some_iff] at split
    obtain ⟨parts, split, same⟩ := split
    exact ⟨parts, ⟨front, (itemText_append_blanks some_front).mp found, split⟩, same⟩
  · rintro ⟨parts, ⟨item, found, split⟩, same⟩
    have some_item : item ≠ [] := by
      rintro rfl
      cases split
    refine ⟨item ++ blanks, (itemText_append_blanks some_item).mpr found, ?_⟩
    rw [splitArrow_append_blanks blank, split]
    exact congrArg some same

/-- Blanks at the end of a line do not count. -/
theorem relationshipOfLine_append_blanks (blank : Blanks blanks) (line : List Char) :
    relationshipOfLine (line ++ blanks) = relationshipOfLine line := by
  unfold relationshipOfLine
  rw [item_split_append_blanks blank]
  cases (itemText line).bind splitArrow with
  | none => rfl
  | some parts =>
    obtain ⟨source, rest⟩ := parts
    simp only [Option.map_some, trimEnd_append_blank blank]

theorem relationshipOfLine_withoutReturn (line : List Char) :
    relationshipOfLine (withoutReturn line) = relationshipOfLine line := by
  refine blind_withoutReturn (fun front => relationshipOfLine_append_blanks ?_ front) line
  intro c member
  rw [List.mem_singleton.mp member]
  decide

theorem relationships_eq (text : String) :
    relationships text = (pieces '\n' text.toList).filterMap relationshipOfLine :=
  filterMap_lines relationshipOfLine_withoutReturn rfl text.toList

@[simp] theorem relationships_empty : relationships "" = [] := rfl

/-- A line feed separates: nothing is read across it. -/
theorem relationships_append_mark (before after : String) :
    relationships (before ++ "\n" ++ after) = relationships before ++ relationships after := by
  have cut : (before ++ "\n" ++ after).toList = before.toList ++ '\n' :: after.toList := by
    simp
  rw [relationships_eq, relationships_eq, relationships_eq, cut, pieces_append_mark,
    List.filterMap_append]

end DevlogGraph.Pattern
