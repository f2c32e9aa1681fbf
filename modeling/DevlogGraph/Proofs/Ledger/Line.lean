import DevlogGraph.Ledger.Render
import DevlogGraph.Proofs.Pattern.Edge

/-! A written line beside the edge that is read from it. Nothing is escaped in a line, so the two
agree exactly when no name brings its own arrow or parenthesis and the kind is one that is kept. -/
namespace DevlogGraph.Ledger

open Text Pattern

/-- A blank, an arrow, and behind it a blank or the end. -/
def ArrowInside (name : List Char) : Prop :=
  ∃ before blank after, name = before ++ blank :: '-' :: '>' :: after ∧ isBlank blank = true ∧
    (after = [] ∨ after.head?.any isBlank = true)

/-- A blank and a parenthesis that is opened there and never closed. -/
def OpenInside (name : List Char) : Prop :=
  ∃ before blank after, name = before ++ blank :: '(' :: after ∧ isBlank blank = true ∧
    ')' ∉ after

/-- The part of a line behind its arrow. -/
def lineEnd (target kind : List Char) : List Char := target ++ ' ' :: '(' :: (kind ++ [')'])

theorem line_toList (edge : Relationship) : (line edge).toList =
    '-' :: ' ' :: (edge.source.toList ++
      ' ' :: '-' :: '>' :: ' ' :: lineEnd edge.target.toList edge.kind.toList) := by
  simp [line, lineEnd, ToString.toString]

theorem blanks_space : Blanks [' '] := by
  intro c member
  rw [List.mem_singleton.mp member]
  decide

theorem head_of_trimmed {name : List Char} (trimmed : Trimmed name) (named : name ≠ [])
    (rest : List Char) : (name ++ rest).head?.any isBlank = false := by
  cases name with
  | nil => exact absurd rfl named
  | cons c later => simpa using trimmed.head

private theorem front_of_trimmed {front : List Char} (trimmed : Trimmed (front ++ c :: rest))
    (blank : isBlank c = true) : front ≠ [] := by
  rintro rfl
  have visible := trimmed.head
  simp [blank] at visible

/-- What stands in a trimmed name after its first character does not end in a blank. -/
private theorem last_of_trimmed {first second : List Char} (trimmed : Trimmed (first ++ second))
    (some_second : second ≠ []) : ¬ Blanks second := by
  intro blank
  obtain ⟨front, c, rfl⟩ := List.eq_nil_or_concat second |>.resolve_left some_second
  have hidden := blank c (by simp)
  have visible := trimmed.last
  simp [hidden] at visible

/-- If blanks start a text that begins inside a trimmed name, then what follows them still begins
inside the name. -/
private theorem blanks_end_inside {first second blanks rest after : List Char}
    (trimmed : Trimmed (first ++ second)) (some_second : second ≠ []) (blank : Blanks blanks)
    (same : second ++ after = blanks ++ rest) :
    ∃ inner, second = blanks ++ inner ∧ inner ≠ [] ∧ rest = inner ++ after := by
  rcases List.append_eq_append_iff.mp same with ⟨more, blanks_eq, _⟩ | ⟨inner, second_eq, rest_eq⟩
  · refine absurd ?_ (last_of_trimmed trimmed some_second)
    intro c member
    exact blank c (by simp [blanks_eq, member])
  · refine ⟨inner, second_eq, ?_, rest_eq⟩
    rintro rfl
    rw [List.append_nil] at second_eq
    exact last_of_trimmed trimmed some_second (second_eq ▸ blank)

private theorem blanks_last {blanks : List Char} (blank : Blanks blanks) (nonempty : blanks ≠ []) :
    ∃ front last, blanks = front ++ [last] ∧ isBlank last = true := by
  obtain ⟨front, last, rfl⟩ := List.eq_nil_or_concat blanks |>.resolve_left nonempty
  exact ⟨front, last, by simp, blank last (by simp)⟩

private theorem arrowInside_of_read {first second tail : List Char}
    (trimmed : Trimmed (first ++ second)) (some_second : second ≠ [])
    (reads : arrowTarget? (second ++ ' ' :: '-' :: '>' :: ' ' :: tail) = some target) :
    ArrowInside (first ++ second) := by
  obtain ⟨blanks, gap, blank, some_blanks, gap_blank, some_gap, cut, _, _⟩ :=
    arrowTarget_eq_some_iff.mp reads
  obtain ⟨inner, rfl, some_inner, arrow⟩ := blanks_end_inside trimmed some_second blank cut
  obtain ⟨front, last, rfl, last_blank⟩ := blanks_last blank some_blanks
  obtain ⟨after, rfl⟩ : ∃ after, inner = '-' :: '>' :: after := by
    cases inner with
    | nil => exact absurd rfl some_inner
    | cons dash later =>
      cases later with
      | nil => simp at arrow
      | cons angle after =>
        simp only [List.cons_append, List.cons.injEq] at arrow
        exact ⟨after, by rw [← arrow.1, ← arrow.2.1]⟩
  refine ⟨first ++ front, last, after, by simp, last_blank, ?_⟩
  cases after with
  | nil => exact .inl rfl
  | cons c rest =>
    have follows : gap ++ target = c :: rest ++ ' ' :: '-' :: '>' :: ' ' :: tail := by
      simpa using arrow
    have starts := gap_blank.head some_gap target
    rw [follows] at starts
    exact .inr (by simpa using starts)

theorem arrowTarget_spaced (named : text ≠ []) (visible : text.head?.any isBlank = false) :
    arrowTarget? (' ' :: '-' :: '>' :: ' ' :: text) = some text :=
  arrowTarget_eq_some_iff.mpr
    ⟨[' '], [' '], blanks_space, by simp, blanks_space, by simp, rfl, named, visible⟩

/-- Without an arrow of its own a name reaches up to the arrow of its line. -/
private theorem splitArrow_line {source target : List Char} (trimmed : Trimmed source)
    (named : source ≠ []) (target_trimmed : Trimmed target) (target_named : target ≠ [])
    (kind : List Char) (free : ¬ ArrowInside source) :
    splitArrow (source ++ ' ' :: '-' :: '>' :: ' ' :: lineEnd target kind) =
      some (source, lineEnd target kind) := by
  have visible : (lineEnd target kind).head?.any isBlank = false :=
    head_of_trimmed target_trimmed target_named _
  have some_tail : lineEnd target kind ≠ [] := by simp [lineEnd]
  rw [splitArrow_eq]
  refine splitFirst_complete named (arrowTarget_spaced some_tail visible) ?_
  intro first second cut _ some_second
  cases reads : arrowTarget? (second ++ ' ' :: '-' :: '>' :: ' ' :: lineEnd target kind) with
  | none => rfl
  | some found =>
    subst cut
    exact absurd (arrowInside_of_read trimmed some_second reads) free

/-- With an arrow of its own a name is cut short. -/
private theorem splitArrow_line_early {source : List Char} (tail : List Char)
    (trimmed : Trimmed source) (inside : ArrowInside source) :
    ∃ shorter rest, splitArrow (source ++ ' ' :: '-' :: '>' :: ' ' :: tail) = some (shorter, rest) ∧
      shorter <+: source ∧ shorter.length < source.length := by
  obtain ⟨before, blank, after, rfl, is_blank, follows⟩ := inside
  have some_before := front_of_trimmed trimmed is_blank
  have starts : (after ++ ' ' :: '-' :: '>' :: ' ' :: tail).head?.any isBlank = true := by
    rcases follows with rfl | head_blank
    · rfl
    · cases after with
      | nil => rfl
      | cons c rest => simpa using head_blank
  obtain ⟨gap, gap_blank, some_gap, split⟩ := leading_blanks starts
  have some_target : trimStart (after ++ ' ' :: '-' :: '>' :: ' ' :: tail) ≠ [] := by
    intro empty
    rw [empty, List.append_nil] at split
    have dash := gap_blank '-' (by rw [← split]; simp)
    revert dash
    decide
  have reads : arrowTarget? (blank :: '-' :: '>' :: after ++ ' ' :: '-' :: '>' :: ' ' :: tail) =
      some (trimStart (after ++ ' ' :: '-' :: '>' :: ' ' :: tail)) := by
    refine arrowTarget_eq_some_iff.mpr ⟨[blank], gap, by simpa [Blanks] using is_blank, by simp,
      gap_blank, some_gap, ?_, some_target, trimStart_head _⟩
    rw [← split]
    rfl
  rw [splitArrow_eq]
  exact splitFirst_early some_before (by simp) (by rw [reads]; rfl)

private theorem openInside_of_read {first second kind : List Char}
    (trimmed : Trimmed (first ++ second)) (some_second : second ≠ [])
    (reads : parenthesised? (second ++ ' ' :: '(' :: (kind ++ [')'])) = some found) :
    OpenInside (first ++ second) := by
  obtain ⟨blanks, blank, some_blanks, cut, closed⟩ := parenthesised_eq_some_iff.mp reads
  obtain ⟨inner, rfl, some_inner, opened⟩ := blanks_end_inside trimmed some_second blank cut
  obtain ⟨front, last, rfl, last_blank⟩ := blanks_last blank some_blanks
  cases inner with
  | nil => exact absurd rfl some_inner
  | cons c after =>
    simp only [List.cons_append, List.cons.injEq] at opened
    obtain ⟨rfl, rest⟩ := opened
    have kept : found = after ++ ' ' :: '(' :: kind := by
      have ends : found ++ [')'] = after ++ ' ' :: '(' :: kind ++ [')'] := by simpa using rest
      exact List.append_cancel_right ends
    refine ⟨first ++ front, last, after, by simp, last_blank, ?_⟩
    intro member
    apply closed
    simp [kept, member]

theorem parenthesised_spaced (closed : ')' ∉ kind) :
    parenthesised? (' ' :: '(' :: (kind ++ [')'])) = some kind :=
  parenthesised_eq_some_iff.mpr ⟨[' '], blanks_space, by simp, rfl, closed⟩

/-- Unless it opens a parenthesis itself, a name reaches up to the kind of its line. -/
private theorem splitKind_line {target kind : List Char} (trimmed : Trimmed target)
    (named : target ≠ []) (closed : ')' ∉ kind) (free : ¬ OpenInside target) :
    splitKind (lineEnd target kind) = (target, some kind) := by
  have split : splitFirst parenthesised? (lineEnd target kind) = some (target, kind) := by
    refine splitFirst_complete named (parenthesised_spaced closed) ?_
    intro first second cut _ some_second
    cases early : parenthesised? (second ++ ' ' :: '(' :: (kind ++ [')'])) with
    | none => rfl
    | some found =>
      subst cut
      exact absurd (openInside_of_read trimmed some_second early) free
  rw [splitKind_eq, split]

/-- With a parenthesis of its own a name is cut short. -/
private theorem splitKind_line_early {target kind : List Char} (trimmed : Trimmed target)
    (closed : ')' ∉ kind) (inside : OpenInside target) :
    ∃ shorter written, splitKind (lineEnd target kind) = (shorter, some written) ∧
      shorter <+: target ∧ shorter.length < target.length := by
  obtain ⟨before, blank, after, rfl, is_blank, unclosed⟩ := inside
  have some_before := front_of_trimmed trimmed is_blank
  have reads : parenthesised? (blank :: '(' :: after ++ ' ' :: '(' :: (kind ++ [')'])) =
      some (after ++ ' ' :: '(' :: kind) :=
    parenthesised_eq_some_iff.mpr
      ⟨[blank], by simpa [Blanks] using is_blank, by simp, by simp, by simp [unclosed, closed]⟩
  have readable : (parenthesised? (blank :: '(' :: after ++
      ' ' :: '(' :: (kind ++ [')']))).isSome = true := by
    rw [reads]
    rfl
  obtain ⟨shorter, written, split, inside, less⟩ := splitFirst_early some_before (by simp) readable
  rw [splitKind_eq, lineEnd, split]
  exact ⟨shorter, written, rfl, inside, less⟩

/-- A part of a name in normal form that is shorter has another normal form. -/
private theorem normalName_of_shorter {name : String} {shorter : List Char}
    (normal : normalName name = name) (inside : shorter ⊆ name.toList)
    (less : shorter.length < name.toList.length) :
    normalName (String.ofList shorter) ≠ name := by
  have lowered := ((normalName_eq_self_iff name).mp normal).2
  rw [normalName_of_lowered fun c member => lowered c (inside member)]
  intro same
  rw [← same, String.toList_ofList] at less
  have kept := (trim_sublist shorter).length_le
  omega

theorem itemText_line (edge : Relationship) (trimmed : Trimmed edge.source.toList)
    (named : edge.source ≠ "") : itemText (line edge).toList = some (edge.source.toList ++
      ' ' :: '-' :: '>' :: ' ' :: lineEnd edge.target.toList edge.kind.toList) := by
  rw [line_toList]
  refine itemText_eq_some_iff.mpr ⟨[], [' '], by simp [Blanks], blanks_space, by simp, rfl, ?_⟩
  exact head_of_trimmed trimmed (by simpa using named) _

theorem trimEnd_lineEnd (target kind : List Char) :
    trimEnd (lineEnd target kind) = lineEnd target kind := by
  apply trimEnd_of_last
  have last : (lineEnd target kind).getLast? = some ')' :=
    List.getLast?_eq_some_iff.mpr ⟨target ++ ' ' :: '(' :: kind, by simp [lineEnd]⟩
  rw [last]
  decide

/-- An edge whose line says what it is. -/
structure LineReadable (edge : Relationship) : Prop where
  source_named : edge.source ≠ ""
  target_named : edge.target ≠ ""
  kind_kept : ReadKind edge.kind
  no_arrow : ¬ ArrowInside edge.source.toList
  no_open : ¬ OpenInside edge.target.toList

theorem LineReadable.reads (readable : LineReadable edge)
    (source : normalName edge.source = edge.source)
    (target : normalName edge.target = edge.target) :
    relationshipOfLine (line edge).toList = some edge := by
  have source_trimmed := ((normalName_eq_self_iff _).mp source).1
  have target_trimmed := ((normalName_eq_self_iff _).mp target).1
  have some_source : edge.source.toList ≠ [] := by simpa using readable.source_named
  have some_target : edge.target.toList ≠ [] := by simpa using readable.target_named
  have arrow := splitArrow_line source_trimmed some_source target_trimmed some_target
    edge.kind.toList readable.no_arrow
  have kind_split := splitKind_line target_trimmed some_target readable.kind_kept.closed
    readable.no_open
  have kind : kindOf (some edge.kind.toList) = edge.kind := by
    rw [kindOf_visible, readable.kind_kept.trimmed, String.ofList_toList]
    rw [readable.kind_kept.trimmed]
    simpa using readable.kind_kept.nonempty
  have stated : Stated (line edge).toList edge edge.source.toList edge.target.toList
      (some edge.kind.toList) := by
    refine ⟨⟨_, _, itemText_line edge source_trimmed readable.source_named, arrow, ?_⟩, ?_, ?_,
      kind.symm, readable.source_named, readable.target_named⟩
    · rw [trimEnd_lineEnd, kind_split]
    · rw [String.ofList_toList, source]
    · rw [String.ofList_toList, target]
  exact stated.read

/-- A written line gives back its edge exactly if the edge is readable. -/
theorem relationshipOfLine_line_iff (source : normalName edge.source = edge.source)
    (target : normalName edge.target = edge.target) :
    relationshipOfLine (line edge).toList = some edge ↔ LineReadable edge := by
  constructor
  · intro read
    obtain ⟨front, back, written, stated⟩ := relationshipOfLine_sound read
    obtain ⟨item, rest, found, arrow, split⟩ := stated.splits
    have source_trimmed := ((normalName_eq_self_iff _).mp source).1
    have target_trimmed := ((normalName_eq_self_iff _).mp target).1
    have some_source : edge.source.toList ≠ [] := by simpa using stated.source_named
    have some_target : edge.target.toList ≠ [] := by simpa using stated.target_named
    rw [itemText_line edge source_trimmed stated.source_named] at found
    cases found
    have no_arrow : ¬ ArrowInside edge.source.toList := by
      intro inside
      obtain ⟨shorter, others, early, part, less⟩ := splitArrow_line_early
        (lineEnd edge.target.toList edge.kind.toList) source_trimmed inside
      rw [early] at arrow
      cases arrow
      exact normalName_of_shorter source part.subset less stated.source_eq.symm
    have no_open : ¬ OpenInside edge.target.toList := by
      intro inside
      rw [splitArrow_line source_trimmed some_source target_trimmed some_target _ no_arrow] at arrow
      cases arrow
      obtain ⟨shorter, others, early, part, less⟩ :=
        splitKind_line_early target_trimmed stated.readKind.closed inside
      rw [trimEnd_lineEnd, early] at split
      cases split
      exact normalName_of_shorter target part.subset less stated.target_eq.symm
    exact ⟨stated.source_named, stated.target_named, stated.readKind, no_arrow, no_open⟩
  · intro readable
    exact readable.reads source target

end DevlogGraph.Ledger
