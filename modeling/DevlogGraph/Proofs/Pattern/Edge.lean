import DevlogGraph.Proofs.Pattern.Arrow

/-! What an edge that was read from a line can look like: its ends have names in normal form, its
kind is trimmed and holds no closing parenthesis, and nothing blank in it was not in the line. -/
namespace DevlogGraph.Pattern

open Text

/-- A kind as the reader gives it. -/
structure ReadKind (kind : String) : Prop where
  nonempty : kind ≠ ""
  trimmed : trim kind.toList = kind.toList
  closed : ')' ∉ kind.toList

theorem kindOf_blank {written : List Char} (blank : trim written = []) :
    kindOf (some written) = defaultKind := by
  rw [kindOf, Option.map_some, blank]

theorem kindOf_visible {written : List Char} (visible : trim written ≠ []) :
    kindOf (some written) = String.ofList (trim written) := by
  cases kept : trim written with
  | nil => exact absurd kept visible
  | cons c rest => rw [kindOf, Option.map_some, kept]

private theorem defaultKind_readKind : ReadKind defaultKind := by
  refine ⟨by decide, by decide, by decide⟩

private theorem kindOf_readKind {written : Option (List Char)}
    (closed : ∀ kind, written = some kind → ')' ∉ kind) : ReadKind (kindOf written) := by
  cases written with
  | none => exact defaultKind_readKind
  | some kind =>
    by_cases blank : trim kind = []
    · rw [kindOf_blank blank]
      exact defaultKind_readKind
    · rw [kindOf_visible blank]
      refine ⟨?_, ?_, ?_⟩
      · intro empty
        apply blank
        simpa using empty
      · rw [String.toList_ofList, trim_eq_self_iff]
        exact trim_trimmed kind
      · rw [String.toList_ofList]
        intro member
        exact closed kind rfl ((trim_sublist kind).subset member)

theorem splitKind_sound (split : splitKind text = (target, written)) :
    (written = none ∧ text = target) ∨
      ∃ kind after, written = some kind ∧ text = target ++ after ∧ target ≠ [] ∧
        parenthesised? after = some kind := by
  rw [splitKind_eq] at split
  cases found : splitFirst parenthesised? text with
  | none =>
    rw [found] at split
    cases split
    exact .inl ⟨rfl, rfl⟩
  | some parts =>
    obtain ⟨before, kind⟩ := parts
    rw [found] at split
    cases split
    obtain ⟨after, cut, nonempty, reads⟩ := splitFirst_sound found
    exact .inr ⟨kind, after, rfl, cut, nonempty, reads⟩

/-- The parts of a line that states an edge. -/
structure Stated (line : List Char) (edge : Relationship) (source target : List Char)
    (written : Option (List Char)) : Prop where
  splits : ∃ item rest, itemText line = some item ∧ splitArrow item = some (source, rest) ∧
    splitKind (trimEnd rest) = (target, written)
  source_eq : edge.source = normalName (String.ofList source)
  target_eq : edge.target = normalName (String.ofList target)
  kind_eq : edge.kind = kindOf written
  source_named : edge.source ≠ ""
  target_named : edge.target ≠ ""

theorem relationshipOfLine_sound (read : relationshipOfLine line = some edge) :
    ∃ source target written, Stated line edge source target written := by
  unfold relationshipOfLine at read
  cases cut : (itemText line).bind splitArrow with
  | none =>
    rw [cut] at read
    cases read
  | some parts =>
    obtain ⟨source, rest⟩ := parts
    obtain ⟨item, found, split⟩ := Option.bind_eq_some_iff.mp cut
    rw [cut] at read
    dsimp only at read
    split at read
    · cases read
    · rename_i named
      rw [Bool.or_eq_true, not_or, String.isEmpty_iff, String.isEmpty_iff] at named
      have made := Option.some.inj read
      subst made
      have source_named := named.1
      have target_named := named.2
      rw [← normalName_normalName] at source_named target_named
      exact ⟨source, _, _, ⟨item, rest, found, split, rfl⟩, normalName_normalName _,
        normalName_normalName _, rfl, source_named, target_named⟩

/-- The parts of a line determine its edge. -/
theorem Stated.read (stated : Stated line edge source target written) :
    relationshipOfLine line = some edge := by
  obtain ⟨item, rest, found, arrow, split⟩ := stated.splits
  have source_named := stated.source_named
  have target_named := stated.target_named
  rw [stated.source_eq] at source_named
  rw [stated.target_eq] at target_named
  have named : ¬ ((normalName (String.ofList source)).isEmpty ||
      (normalName (String.ofList target)).isEmpty) = true := by
    simp [source_named, target_named]
  unfold relationshipOfLine
  rw [found, Option.bind_some, arrow]
  dsimp only
  rw [split]
  dsimp only
  rw [if_neg named, Relationship.of, normalName_normalName, normalName_normalName]
  rw [← stated.source_eq, ← stated.target_eq, ← stated.kind_eq]

private theorem itemText_subset (found : itemText line = some item) : item ⊆ line := by
  obtain ⟨blanks, gap, _, _, _, rfl, _⟩ := itemText_eq_some_iff.mp found
  intro c member
  simp [member]

private theorem splitArrow_subset (split : splitArrow item = some (source, rest)) :
    source ⊆ item ∧ rest ⊆ item := by
  rw [splitArrow_eq] at split
  obtain ⟨after, rfl, _, reads⟩ := splitFirst_sound split
  obtain ⟨blanks, gap, _, _, _, _, rfl, _, _⟩ := arrowTarget_eq_some_iff.mp reads
  constructor <;>
  · intro c member
    simp [member]

private theorem splitKind_subset (split : splitKind text = (target, written)) :
    target ⊆ text ∧ ∀ kind, written = some kind → kind ⊆ text := by
  rcases splitKind_sound split with ⟨rfl, rfl⟩ | ⟨kind, after, rfl, rfl, _, reads⟩
  · exact ⟨List.Subset.refl _, by simp⟩
  · obtain ⟨blanks, _, _, rfl, _⟩ := parenthesised_eq_some_iff.mp reads
    constructor
    · intro c member
      simp [member]
    · intro found same c member
      cases same
      simp [member]

private theorem splitKind_closed (split : splitKind text = (target, written)) :
    ∀ kind, written = some kind → ')' ∉ kind := by
  rcases splitKind_sound split with ⟨rfl, _⟩ | ⟨kind, after, rfl, _, _, reads⟩
  · simp
  · obtain ⟨_, _, _, _, closed⟩ := parenthesised_eq_some_iff.mp reads
    intro found same
    cases same
    exact closed

/-- How the names stand in the line: an arrow between them, and only blanks around it. -/
theorem Stated.names (stated : Stated line edge source target written) :
    ∃ before blanks gap after,
      line = before ++ source ++ blanks ++ '-' :: '>' :: (gap ++ target ++ after) ∧
      Blanks blanks ∧ Blanks gap := by
  obtain ⟨item, rest, found, arrow, split⟩ := stated.splits
  obtain ⟨lead, space, _, _, _, rfl, _⟩ := itemText_eq_some_iff.mp found
  rw [splitArrow_eq] at arrow
  obtain ⟨behind, rfl, _, reads⟩ := splitFirst_sound arrow
  obtain ⟨blanks, gap, blank, _, gap_blank, _, rfl, _, _⟩ := arrowTarget_eq_some_iff.mp reads
  obtain ⟨trail, _, ends⟩ := trimEnd_split rest
  have starts : ∃ more, trimEnd rest = target ++ more := by
    rcases splitKind_sound split with ⟨_, same⟩ | ⟨_, more, _, cut, _, _⟩
    · exact ⟨[], by rw [same, List.append_nil]⟩
    · exact ⟨more, cut⟩
  obtain ⟨more, cut⟩ := starts
  have target_first : rest = target ++ (more ++ trail) := by
    rw [← List.append_assoc, ← cut]
    exact ends
  exact ⟨lead ++ '-' :: space, blanks, gap, more ++ trail, by simp [target_first], blank, gap_blank⟩

theorem Stated.readKind (stated : Stated line edge source target written) : ReadKind edge.kind := by
  obtain ⟨_, _, _, _, split⟩ := stated.splits
  rw [stated.kind_eq]
  exact kindOf_readKind (splitKind_closed split)

/-- The parts of the line that the edge was made from. -/
theorem Stated.subset (stated : Stated line edge source target written) :
    source ⊆ line ∧ target ⊆ line ∧ ∀ kind, written = some kind → kind ⊆ line := by
  obtain ⟨item, rest, found, arrow, split⟩ := stated.splits
  have from_item := itemText_subset found
  obtain ⟨front, back⟩ := splitArrow_subset arrow
  obtain ⟨blanks, _, cut⟩ := trimEnd_split rest
  have shortened : trimEnd rest ⊆ rest := by
    intro c member
    rw [cut]
    simp [member]
  have reach : trimEnd rest ⊆ line := fun c member => from_item (back (shortened member))
  obtain ⟨names, kinds⟩ := splitKind_subset split
  exact ⟨fun c member => from_item (front member), fun c member => reach (names member),
    fun kind same c member => reach (kinds kind same member)⟩

private theorem mem_of_blank_mem_kindOf {c : Char} (member : c ∈ (kindOf written).toList)
    (blank : isBlank c = true) : ∃ kind, written = some kind ∧ c ∈ kind := by
  have visible : (defaultKind.toList.all fun d => !isBlank d) = true := by decide
  have absent : c ∉ defaultKind.toList := by
    intro inside
    have checked := List.all_eq_true.mp visible c inside
    simp [blank] at checked
  cases written with
  | none => exact absurd member absent
  | some kind =>
    refine ⟨kind, rfl, ?_⟩
    by_cases empty : trim kind = []
    · rw [kindOf_blank empty] at member
      exact absurd member absent
    · rw [kindOf_visible empty, String.toList_ofList] at member
      exact (trim_sublist kind).subset member

/-- No blank of the edge is new. -/
theorem Stated.blank_mem (stated : Stated line edge source target written)
    (blank : isBlank c = true) :
    (c ∈ edge.source.toList → c ∈ line) ∧ (c ∈ edge.target.toList → c ∈ line) ∧
      (c ∈ edge.kind.toList → c ∈ line) := by
  obtain ⟨from_source, from_target, from_kind⟩ := stated.subset
  rw [stated.source_eq, stated.target_eq, stated.kind_eq]
  refine ⟨?_, ?_, ?_⟩
  · intro member
    have inside := mem_of_blank_mem_normalName member blank
    rw [String.toList_ofList] at inside
    exact from_source inside
  · intro member
    have inside := mem_of_blank_mem_normalName member blank
    rw [String.toList_ofList] at inside
    exact from_target inside
  · intro member
    obtain ⟨kind, same, inside⟩ := mem_of_blank_mem_kindOf member blank
    exact from_kind kind same inside

end DevlogGraph.Pattern
