import DevlogGraph.Proofs.Pattern.TargetPattern

/-! The expression for relationship lines. Its repetitions can hand blanks to the groups, but then a
group holds nothing else and the match yields no edge; every other match is what the reader of lines
finds. -/
namespace DevlogGraph.Pattern

open Text Expression

/-- From the blanks before the arrow on. -/
def arrowPattern : Expression :=
  both gapPattern (both (charPattern '-') (both (charPattern '>') (both gapPattern targetPattern)))

/-- Both sides of an arrow. -/
def sidesPattern : Expression := both (wordPattern 1) arrowPattern

/-- `^\s*-\s+(.+?)\s+->\s+(.+?)(?:\s+\(([^)]*)\))?\s*$` -/
def linePattern : Expression :=
  both marginPattern (both (charPattern '-') (both gapPattern sidesPattern))

/-- The edge between two written names, if both hold something visible. -/
def edgeBetween (source target : List Char) (kind : Option (List Char)) : Option Relationship :=
  let source := normalName (String.ofList source)
  let target := normalName (String.ofList target)
  if source.isEmpty || target.isEmpty then none else some (.of source target (kindOf kind))

/-- The edge of a match. -/
def edgeOf (groups : Groups) : Option Relationship := do
  let source ← groups.lookup 1
  let target ← groups.lookup 2
  edgeBetween source target (groups.lookup 3)

private theorem normalName_blank {text : List Char} (blank : Blanks text) :
    normalName (String.ofList text) = "" := by
  rw [normalName_eq_empty_iff, String.toList_ofList]
  exact blank

private theorem edgeOf_blank_source {source : List Char} (blank : Blanks source) (found : Groups) :
    edgeOf ((1, source) :: found) = none := by
  have unnamed (target : List Char) (kind : Option (List Char)) :
      edgeBetween source target kind = none := by
    rw [edgeBetween, normalName_blank blank]
    rfl
  cases target : List.lookup 2 ((1, source) :: found) <;> simp [edgeOf, target, unnamed]

private theorem edgeOf_blank_target {target : List Char} (blank : Blanks target)
    (source : List Char)
    (found : Groups) : edgeOf ((1, source) :: (2, target) :: found) = none := by
  simp [edgeOf, List.lookup_cons, edgeBetween, normalName_blank blank]

/-- What the expression makes of a line. -/
def matchedEdge (line : List Char) : Option Relationship := (full linePattern line).bind edgeOf

private theorem edgeOf_targetGroups (source : List Char) (parts : List Char × Option (List Char)) :
    edgeOf ((1, source) :: targetGroups parts) = edgeBetween source parts.1 parts.2 := by
  obtain ⟨target, kind⟩ := parts
  cases kind <;> simp [edgeOf, targetGroups, List.lookup_cons, List.lookup_nil]

/-- The arrow that the reader of lines knows. -/
private theorem full_arrow {text : List Char} (feedless : '\n' ∉ text)
    (found : arrowTarget? text = some target) :
    full arrowPattern text = some (targetGroups (splitKind (trimEnd target))) := by
  obtain ⟨front, gap, blank, some_front, gap_blank, some_gap, rfl, nonempty, visible⟩ :=
    arrowTarget_eq_some_iff.mp found
  have starts := gap_blank.head some_gap target
  have behind := trimStart_blanks_append gap_blank visible
  have spaced : '\n' ∉ gap ++ target := fun member => feedless (by simp [List.mem_append.mp member])
  have named : '\n' ∉ target := fun member => spaced (by simp [member])
  rw [arrowPattern, full_gap_char_eq_some_iff (by decide)]
  refine ⟨front, '>' :: (gap ++ target), blank, some_front, rfl, ?_⟩
  rw [full_char_eq_some_iff]
  refine ⟨gap ++ target, rfl, ?_⟩
  rw [full_spaced_target spaced starts (by rwa [behind]), behind]
  exact full_target named nonempty visible

/-- An arrow with nothing visible behind it. -/
structure Pointless (text : List Char) : Prop where
  parts : ∃ front rest, text = front ++ '-' :: '>' :: rest ∧ Blanks front ∧ Blanks rest

private theorem full_arrow_unknown {text : List Char} (feedless : '\n' ∉ text)
    (unknown : arrowTarget? text = none) (reads : full arrowPattern text = some groups) :
    Pointless text ∧ ∃ target found, groups = (2, target) :: found ∧ Blanks target := by
  rw [arrowPattern, full_gap_char_eq_some_iff (by decide)] at reads
  obtain ⟨front, _, blank, some_front, rfl, reads⟩ := reads
  obtain ⟨rest, same, reads⟩ := full_char_eq_some_iff.mp reads
  cases same
  have shorter : '\n' ∉ rest := fun member => feedless (by simp [member])
  have starts := gap_head reads
  have rest_blank : Blanks rest := by
    cases behind : trimStart rest with
    | nil => exact trimStart_eq_nil_iff.mp behind
    | cons c later =>
      obtain ⟨gap, gap_blank, some_gap, parts⟩ := leading_blanks starts
      have known : arrowTarget? (front ++ '-' :: '>' :: rest) = some (trimStart rest) :=
        arrowTarget_eq_some_iff.mpr ⟨front, gap, blank, some_front, gap_blank, some_gap,
          by rw [← parts], by simp [behind], trimStart_head rest⟩
      rw [unknown] at known
      cases known
  exact ⟨⟨front, rest, rfl, blank, rest_blank⟩, full_spaced_target_blank shorter rest_blank reads⟩

/-- An arrow with something visible behind it does not stand at the end of a text like that. -/
private theorem Pointless.arrowTarget_none {first second : List Char}
    (pointless : Pointless (first ++ second)) : arrowTarget? second = none := by
  rw [Option.eq_none_iff_forall_ne_some]
  intro target found
  obtain ⟨blanks, gap, _, _, _, _, rfl, nonempty, visible⟩ := arrowTarget_eq_some_iff.mp found
  obtain ⟨front, rest, parts, blank, rest_blank⟩ := pointless.parts
  -- The text on the right has two visible characters, the one on the left has three.
  have hidden {text : List Char} (all_blank : Blanks text) : text.countP (!isBlank ·) = 0 := by
    rw [List.countP_eq_zero]
    intro c member
    simp [all_blank c member]
  have dash : isBlank '-' = false := by decide
  have tip : isBlank '>' = false := by decide
  cases target with
  | nil => exact nonempty rfl
  | cons c later =>
    have seen : isBlank c = false := by simpa using visible
    have counts := congrArg (List.countP (!isBlank ·)) parts
    simp only [List.countP_append, List.countP_cons, seen, dash, tip, hidden blank,
      hidden rest_blank, Bool.not_false, if_true] at counts
    omega

/-- Both sides of an arrow: a match with another arrow, or with a longer first name, has nothing
visible behind the arrow. -/
private theorem full_sides {text : List Char} (feedless : '\n' ∉ text) :
    (full sidesPattern text).bind edgeOf = (splitArrow text).bind fun (source, rest) =>
      edgeBetween source (splitKind (trimEnd rest)).1 (splitKind (trimEnd rest)).2 := by
  have behind {first second : List Char} (parts : text = first ++ second) : '\n' ∉ second := by
    intro member
    exact feedless (by simp [parts, member])
  rw [sidesPattern, full_word 1 _ feedless, splitArrow_eq]
  cases split : splitFirst arrowTarget? text with
  | some sides =>
    obtain ⟨source, rest⟩ := sides
    obtain ⟨after, rfl, some_source, reads⟩ := splitFirst_sound split
    have cut := splitFirst_complete some_source (full_arrow (behind rfl) reads) <| by
      intro first second parts some_first some_second
      rw [Option.eq_none_iff_forall_ne_some]
      intro groups found
      have unknown := splitFirst_quiet split first second parts some_first some_second
      have shorter : '\n' ∉ second ++ after := behind (by rw [parts, List.append_assoc])
      have pointless := (full_arrow_unknown shorter unknown found).1
      rw [pointless.arrowTarget_none] at reads
      cases reads
    rw [cut, Option.map_some, Option.bind_some, Option.bind_some]
    dsimp only
    rw [edgeOf_targetGroups]
  | none =>
    rw [Option.bind_none, Option.bind_eq_none_iff]
    intro groups found
    obtain ⟨⟨source, inside⟩, cut, rfl⟩ := Option.map_eq_some_iff.mp found
    obtain ⟨after, parts, some_source, reads⟩ := splitFirst_sound cut
    have unknown := splitFirst_eq_none_iff.mp split source after parts some_source
    obtain ⟨_, target, others, rfl, blank⟩ := full_arrow_unknown (behind parts) unknown reads
    exact edgeOf_blank_target blank source others

/-- The blanks behind the dash go to the first name only if that leaves it without anything else. -/
private theorem full_spaced_sides {text : List Char} (feedless : '\n' ∉ text)
    (starts : text.head?.any isBlank = true) :
    (full (both gapPattern sidesPattern) text).bind edgeOf =
      (full sidesPattern (trimStart text)).bind edgeOf := by
  cases text with
  | nil => cases starts
  | cons c rest =>
    have blank : isBlank c = true := by simpa using starts
    rw [trimStart_cons_blank blank, gapPattern, several, full_assoc, full_one, blank, if_pos rfl,
      full_many]
    cases whole : full sidesPattern (trimStart rest) with
    | some groups => rw [runMany_greedy_all isBlank whole]
    | none =>
      rw [Option.bind_none, Option.bind_eq_none_iff]
      intro groups found
      obtain ⟨front, back, rfl, taken, reads⟩ := runMany_sound found
      have shorter : '\n' ∉ back := by
        intro member
        exact feedless (by simp [member])
      have unspaced : '\n' ∉ trimStart back := by
        intro member
        exact shorter (trimStart_subset back member)
      rw [trimStart_append_blank taken, sidesPattern, full_word 1 _ unspaced,
        Option.map_eq_none_iff] at whole
      rw [sidesPattern, full_word 1 _ shorter, Option.map_eq_some_iff] at reads
      obtain ⟨⟨source, inside⟩, cut, rfl⟩ := reads
      obtain ⟨after, parts, _, arrow⟩ := splitFirst_sound cut
      obtain ⟨more, more_blank, split⟩ := trimStart_split back
      apply edgeOf_blank_source
      -- The arrow comes before anything visible: behind that the whole match found none.
      rcases List.append_eq_append_iff.mp (split.symm.trans parts) with
        ⟨name, source_eq, rest_eq⟩ | ⟨name, more_eq, _⟩
      · cases name with
        | nil =>
          rw [source_eq, List.append_nil]
          exact more_blank
        | cons d others =>
          have unread := splitFirst_eq_none_iff.mp whole _ after rest_eq (by simp)
          rw [unread] at arrow
          cases arrow
      · intro d member
        exact more_blank d (by simp [more_eq, member])

theorem relationshipOfLine_eq (line : List Char) : relationshipOfLine line =
    (itemText line).bind fun item => (splitArrow item).bind fun (source, rest) =>
      edgeBetween source (splitKind (trimEnd rest)).1 (splitKind (trimEnd rest)).2 := by
  rw [← Option.bind_assoc, relationshipOfLine]
  cases (itemText line).bind splitArrow with
  | none => rfl
  | some sides => simp only [Option.bind_some, edgeBetween]

/-- Every line is read as the expression says. -/
theorem matchedEdge_eq {line : List Char} (feedless : '\n' ∉ line) :
    matchedEdge line = relationshipOfLine line := by
  have start : full linePattern line =
      full (both (charPattern '-') (both gapPattern sidesPattern)) (trimStart line) := by
    rw [linePattern, marginPattern, full_many]
    exact runMany_greedy isBlank _ (full_char_forced (by decide)) line
  rw [matchedEdge, start, relationshipOfLine_eq, itemText]
  split
  · rename_i rest dash
    have shorter : '\n' ∉ rest := by
      intro member
      exact feedless (trimStart_subset line (by simp [dash, member]))
    have unspaced : '\n' ∉ trimStart rest := by
      intro member
      exact shorter (trimStart_subset rest member)
    rw [dash, charPattern, full_one, beq_self_eq_true, if_pos rfl]
    split
    · rename_i starts
      rw [full_spaced_sides shorter starts, full_sides unspaced, Option.bind_some]
    · rename_i other
      rw [Option.bind_none, Option.bind_eq_none_iff]
      intro groups reads
      exact absurd (gap_head reads) other
  · rename_i other
    rw [Option.bind_none, Option.bind_eq_none_iff]
    intro groups reads
    obtain ⟨rest, dash, _⟩ := full_char_eq_some_iff.mp reads
    exact absurd dash (other rest)

end DevlogGraph.Pattern
