import DevlogGraph.Proofs.Pattern.LinePattern
import Mathlib.Data.List.Basic

/-! The form of relationship lines, part by part, and which edge a line of that form states. -/
namespace DevlogGraph.Pattern

open Text

/-- The first place, past the first character, behind which a text is as wanted. -/
structure FirstCut (Wanted : List Char → β → Prop) (text front : List Char) (value : β) : Prop where
  nonempty : front ≠ []
  here : ∃ back, text = front ++ back ∧ Wanted back value
  first : ∀ earlier back other, text = earlier ++ back → earlier ≠ [] → Wanted back other →
    front.length ≤ earlier.length

/-- An arrow between blanks, with something visible behind it. -/
def ArrowTo (text target : List Char) : Prop :=
  ∃ blanks gap, Blanks blanks ∧ blanks ≠ [] ∧ Blanks gap ∧ gap ≠ [] ∧
    text = blanks ++ '-' :: '>' :: (gap ++ target) ∧ target ≠ [] ∧ target.head?.any isBlank = false

/-- A kind in parentheses behind blanks, up to the end of the text. -/
def InParentheses (text kind : List Char) : Prop :=
  ∃ blanks, Blanks blanks ∧ blanks ≠ [] ∧ text = blanks ++ '(' :: (kind ++ [')']) ∧ ')' ∉ kind

/-- What stands behind the dash of a line and the blanks that follow it. -/
def Item (line item : List Char) : Prop :=
  ∃ blanks gap, Blanks blanks ∧ Blanks gap ∧ gap ≠ [] ∧ line = blanks ++ '-' :: (gap ++ item) ∧
    item.head?.any isBlank = false

/-- The name behind an arrow, with or without a kind. -/
inductive TargetForm (text : List Char) (edge : Relationship) : Prop where
  | kinded (cut : FirstCut InParentheses text target kind)
      (named : edge.target = normalName (String.ofList target))
      (kind_eq : edge.kind = if trim kind = [] then "depends_on" else String.ofList (trim kind))
  | plain (whole : ∀ front back kind, text = front ++ back → front ≠ [] → ¬ InParentheses back kind)
      (named : edge.target = normalName (String.ofList text)) (kind_eq : edge.kind = "depends_on")

/-- The form of a line that states `edge`. -/
inductive LineForm (line : List Char) (edge : Relationship) : Prop where
  | item (dash : Item line item) (arrow : FirstCut ArrowTo item source (text ++ trail))
      (trail_blank : Blanks trail) (ends : text.getLast?.any isBlank = false)
      (named : edge.source = normalName (String.ofList source)) (target : TargetForm text edge)

theorem splitFirst_eq_some_iff {read : List Char → Option β} {Wanted : List Char → β → Prop}
    (reads : ∀ text value, read text = some value ↔ Wanted text value) :
    splitFirst read text = some (front, value) ↔ FirstCut Wanted text front value := by
  constructor
  · intro split
    obtain ⟨back, rfl, nonempty, found⟩ := splitFirst_sound split
    refine ⟨nonempty, ⟨back, rfl, (reads back value).mp found⟩, ?_⟩
    intro earlier later other parts some_earlier wanted
    have found_there : (read later).isSome = true := by
      rw [(reads later other).mpr wanted]
      rfl
    obtain ⟨before, _, cut, inside⟩ := splitFirst_prefix some_earlier found_there
    rw [← parts, split] at cut
    cases cut
    exact inside.length_le
  · rintro ⟨nonempty, ⟨back, rfl, wanted⟩, first⟩
    apply splitFirst_complete nonempty ((reads back value).mpr wanted)
    rintro earlier later rfl some_earlier some_later
    rw [Option.eq_none_iff_forall_ne_some]
    intro other found
    have shorter := first earlier (later ++ back) other (by simp) some_earlier
      ((reads _ other).mp found)
    have longer := List.length_pos_iff.mpr some_later
    rw [List.length_append] at shorter
    omega

private theorem kindOf_written (kind : List Char) : kindOf (some kind) =
    if trim kind = [] then "depends_on" else String.ofList (trim kind) := by
  split
  · rename_i blank
    exact kindOf_blank blank
  · rename_i visible
    exact kindOf_visible visible

theorem splitFirst_parenthesised_iff : splitFirst parenthesised? text = some (target, kind) ↔
    FirstCut InParentheses text target kind :=
  splitFirst_eq_some_iff fun _ _ => parenthesised_eq_some_iff

theorem splitArrow_eq_some_iff : splitArrow item = some (source, rest) ↔
    FirstCut ArrowTo item source rest := by
  rw [splitArrow_eq]
  exact splitFirst_eq_some_iff fun _ _ => arrowTarget_eq_some_iff

theorem targetForm_iff : TargetForm text edge ↔
    edge.target = normalName (String.ofList (splitKind text).1) ∧
      edge.kind = kindOf (splitKind text).2 := by
  rw [splitKind_eq]
  constructor
  · rintro (⟨cut, named, kind_eq⟩ | ⟨whole, named, kind_eq⟩)
    · rw [splitFirst_parenthesised_iff.mpr cut]
      exact ⟨named, kind_eq.trans (kindOf_written _).symm⟩
    · have unsplit : splitFirst parenthesised? text = none := by
        rw [splitFirst_eq_none_iff]
        intro front back parts some_front
        rw [Option.eq_none_iff_forall_ne_some]
        intro kind found
        exact whole front back kind parts some_front (parenthesised_eq_some_iff.mp found)
      rw [unsplit]
      exact ⟨named, kind_eq⟩
  · rintro ⟨named, kind_eq⟩
    cases split : splitFirst parenthesised? text with
    | some parts =>
      obtain ⟨target, kind⟩ := parts
      rw [split] at named kind_eq
      exact .kinded (splitFirst_parenthesised_iff.mp split) named
        (kind_eq.trans (kindOf_written kind))
    | none =>
      rw [split] at named kind_eq
      refine .plain ?_ named kind_eq
      intro front back kind parts some_front inside
      have silent := splitFirst_eq_none_iff.mp split front back parts some_front
      rw [parenthesised_eq_some_iff.mpr inside] at silent
      cases silent

private theorem normalName_ne_empty {text : List Char} (nonempty : text ≠ [])
    (visible : text.head?.any isBlank = false) : normalName (String.ofList text) ≠ "" := by
  rw [ne_eq, normalName_eq_empty_iff, String.toList_ofList]
  intro blank
  cases text with
  | nil => exact nonempty rfl
  | cons c rest =>
    have seen : isBlank c = false := by simpa using visible
    rw [blank c List.mem_cons_self] at seen
    cases seen

theorem edgeBetween_eq_some_iff (source_named : normalName (String.ofList source) ≠ "")
    (target_named : normalName (String.ofList target) ≠ "") :
    edgeBetween source target kind = some edge ↔ edge.source = normalName (String.ofList source) ∧
      edge.target = normalName (String.ofList target) ∧ edge.kind = kindOf kind := by
  have both : ((normalName (String.ofList source)).isEmpty ||
      (normalName (String.ofList target)).isEmpty) = false := by
    simp [source_named, target_named]
  rw [edgeBetween, both, if_neg (by simp), Relationship.of, normalName_normalName,
    normalName_normalName]
  constructor
  · intro made
    rw [← Option.some.inj made]
    exact ⟨rfl, rfl, rfl⟩
  · rintro ⟨source_eq, target_eq, kind_eq⟩
    rw [← source_eq, ← target_eq, ← kind_eq]

private theorem edgeBetween_isSome (kind : Option (List Char))
    (source_named : normalName (String.ofList source) ≠ "")
    (target_named : normalName (String.ofList target) ≠ "") :
    (edgeBetween source target kind).isSome = true := by
  have made : edgeBetween source target kind = some ⟨normalName (String.ofList source),
      normalName (String.ofList target), kindOf kind⟩ :=
    (edgeBetween_eq_some_iff source_named target_named).mpr ⟨rfl, rfl, rfl⟩
  rw [made]
  rfl

/-- A part of a text from its start on, but not none of it, starts as the text does. -/
private theorem visible_front {front back : List Char} (nonempty : front ≠ [])
    (visible : (front ++ back).head?.any isBlank = false) : front.head?.any isBlank = false := by
  cases front with
  | nil => exact absurd rfl nonempty
  | cons c rest => exact visible

theorem FirstCut.source_named (cut : FirstCut ArrowTo item source rest)
    (visible : item.head?.any isBlank = false) : normalName (String.ofList source) ≠ "" := by
  obtain ⟨back, rfl, _⟩ := cut.here
  exact normalName_ne_empty cut.nonempty (visible_front cut.nonempty visible)

/-- Something visible stays if the blanks at the end and the kind go. -/
private theorem splitKind_named {rest : List Char} (nonempty : rest ≠ [])
    (visible : rest.head?.any isBlank = false) :
    normalName (String.ofList (splitKind (trimEnd rest)).1) ≠ "" := by
  obtain ⟨trail, _, whole⟩ := trimEnd_split rest
  have some_name := trimEnd_ne_nil nonempty visible
  have name_visible : (trimEnd rest).head?.any isBlank = false :=
    visible_front some_name (whole ▸ visible)
  have split : splitKind (trimEnd rest) = ((splitKind (trimEnd rest)).1, (splitKind (trimEnd rest)).2) :=
    rfl
  rcases splitKind_sound split with ⟨_, same⟩ | ⟨_, _, _, parts, some_target, _⟩
  · rw [← same]
    exact normalName_ne_empty some_name name_visible
  · exact normalName_ne_empty some_target (visible_front some_target (parts ▸ name_visible))

theorem FirstCut.target_named (cut : FirstCut ArrowTo item source rest) :
    normalName (String.ofList (splitKind (trimEnd rest)).1) ≠ "" := by
  obtain ⟨_, _, _, _, _, _, _, _, _, nonempty, visible⟩ := cut.here
  exact splitKind_named nonempty visible

theorem relationshipOfLine_eq_some_iff :
    relationshipOfLine line = some edge ↔ LineForm line edge := by
  rw [relationshipOfLine_eq, Option.bind_eq_some_iff]
  simp only [Option.bind_eq_some_iff]
  constructor
  · rintro ⟨item, found, ⟨source, rest⟩, split, made⟩
    have dash := itemText_eq_some_iff.mp found
    have arrow := splitArrow_eq_some_iff.mp split
    obtain ⟨_, _, _, _, _, _, visible⟩ := dash
    obtain ⟨source_eq, target_eq, kind_eq⟩ :=
      (edgeBetween_eq_some_iff (arrow.source_named visible) arrow.target_named).mp made
    obtain ⟨trail, blank, whole⟩ := trimEnd_split rest
    exact .item (itemText_eq_some_iff.mp found) (whole ▸ arrow) blank (trimEnd_last rest) source_eq
      (targetForm_iff.mpr ⟨target_eq, kind_eq⟩)
  · rintro ⟨dash, arrow, blank, ends, source_eq, target⟩
    rename_i item source text trail
    have trimmed : trimEnd (text ++ trail) = text := by
      rw [trimEnd_append_blank blank, trimEnd_of_last ends]
    have target_named := arrow.target_named
    rw [trimmed] at target_named
    obtain ⟨target_eq, kind_eq⟩ := targetForm_iff.mp target
    refine ⟨item, itemText_eq_some_iff.mpr dash, (source, text ++ trail),
      splitArrow_eq_some_iff.mpr arrow, ?_⟩
    obtain ⟨_, _, _, _, _, _, visible⟩ := dash
    simp only [trimmed]
    exact (edgeBetween_eq_some_iff (arrow.source_named visible) target_named).mpr
      ⟨source_eq, target_eq, kind_eq⟩

/-- A line states an edge whenever it has an arrow behind a dash. -/
theorem relationshipOfLine_isSome_iff : (relationshipOfLine line).isSome = true ↔
    ∃ item front back target, Item line item ∧ item = front ++ back ∧ front ≠ [] ∧
      ArrowTo back target := by
  constructor
  · intro found
    obtain ⟨edge, read⟩ := Option.isSome_iff_exists.mp found
    obtain ⟨dash, arrow, _⟩ := relationshipOfLine_eq_some_iff.mp read
    obtain ⟨back, parts, wanted⟩ := arrow.here
    exact ⟨_, _, back, _, dash, parts, arrow.nonempty, wanted⟩
  · rintro ⟨item, front, back, target, dash, parts, nonempty, wanted⟩
    have reads : (arrowTarget? back).isSome = true := by
      rw [arrowTarget_eq_some_iff.mpr wanted]
      rfl
    obtain ⟨source, rest, split, _⟩ := splitFirst_prefix nonempty reads
    rw [← parts, ← splitArrow_eq] at split
    have arrow := splitArrow_eq_some_iff.mp split
    rw [relationshipOfLine_eq, itemText_eq_some_iff.mpr dash, Option.bind_some, split,
      Option.bind_some]
    obtain ⟨_, _, _, _, _, _, visible⟩ := dash
    exact edgeBetween_isSome _ (arrow.source_named visible) arrow.target_named

/-- The edges of a text are those that the expression matches, line by line. They are stated by the
lines of the given form, one by each, and their ends are names in normal form. -/
theorem relationships_form (text : String) :
    relationships text = (lines text.toList).filterMap matchedEdge ∧
    (∀ line ∈ lines text.toList,
      (∀ edge, matchedEdge line = some edge ↔ LineForm line edge) ∧
      ((matchedEdge line).isSome = true ↔ ∃ item front back target, Item line item ∧
        item = front ++ back ∧ front ≠ [] ∧ ArrowTo back target)) ∧
    ∀ edge ∈ relationships text, edge.source ≠ "" ∧ edge.target ≠ "" ∧
      normalName edge.source = edge.source ∧ normalName edge.target = edge.target := by
  have read (line : List Char) (listed : line ∈ lines text.toList) :
      matchedEdge line = relationshipOfLine line := matchedEdge_eq (feed_not_mem_lines listed)
  refine ⟨(List.filterMap_congr read).symm, ?_, ?_⟩
  · intro line listed
    rw [read line listed]
    exact ⟨fun edge => relationshipOfLine_eq_some_iff, relationshipOfLine_isSome_iff⟩
  · intro edge member
    obtain ⟨line, _, found⟩ := List.mem_filterMap.mp member
    obtain ⟨source, target, written, stated⟩ := relationshipOfLine_sound found
    refine ⟨stated.source_named, stated.target_named, ?_, ?_⟩
    · rw [stated.source_eq, normalName_normalName]
    · rw [stated.target_eq, normalName_normalName]

/-- Of two kinds the one at the end counts; the other belongs to the name. Both endings of a line are
left out, and a dash behind other text starts no item. -/
theorem relationships_form_two_kinds :
    let text := "- A -> b (x) (y)\r\nsee - a -> b\n- c -> d"
    Lines text.toList ["- A -> b (x) (y)".toList, "see - a -> b".toList, "- c -> d".toList] ∧
    relationships text = [⟨"a", "b (x)", "y"⟩, ⟨"c", "d", "depends_on"⟩] ∧
    LineForm "- A -> b (x) (y)".toList ⟨"a", "b (x)", "y"⟩ ∧
    ∀ edge, ¬ LineForm "see - a -> b".toList edge := by
  intro text
  have split : lines text.toList =
      ["- A -> b (x) (y)".toList, "see - a -> b".toList, "- c -> d".toList] := by decide
  have kinded : matchedEdge "- A -> b (x) (y)".toList = some ⟨"a", "b (x)", "y"⟩ := by
    decide +kernel
  have silent : matchedEdge "see - a -> b".toList = none := by decide +kernel
  have plain : matchedEdge "- c -> d".toList = some ⟨"c", "d", "depends_on"⟩ := by decide +kernel
  obtain ⟨edges, form, _⟩ := relationships_form text
  rw [split] at edges form
  refine ⟨lines_eq_iff.mp split, ?_, ?_, ?_⟩
  · rw [edges]
    simp only [List.filterMap_cons, kinded, silent, plain, List.filterMap_nil]
  · exact ((form _ List.mem_cons_self).1 _).mp kinded
  · intro edge stated
    have read := ((form _ (List.mem_cons_of_mem _ List.mem_cons_self)).1 edge).mpr stated
    rw [silent] at read
    cases read

end DevlogGraph.Pattern
