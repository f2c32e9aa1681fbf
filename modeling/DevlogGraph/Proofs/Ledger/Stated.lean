import DevlogGraph.Proofs.Ledger.Overlap
import DevlogGraph.Proofs.Text.Fold

/-! Edges that a text states and edges that it mentions. A line mentions the edge that it states,
unless a name in it holds the dotted capital I: in lower case that is two characters, and no folding
makes one of them. -/
namespace DevlogGraph.Ledger

open Text Pattern

/-- Some line of the content states the edge by names without the dotted capital I. -/
def StatedPlainly (content : String) (edge : Relationship) : Prop :=
  ∃ line ∈ lines content.toList, ∃ source target written,
    Stated line edge source target written ∧ 'İ' ∉ source ∧ 'İ' ∉ target

private theorem normalName_ofList (name : List Char) :
    (normalName (String.ofList name)).toList = lowercase (trim name) := by
  rw [normalName_toList, String.toList_ofList]

private theorem alike_lowercase_trim (plain : 'İ' ∉ name) :
    Alike (trim name) (lowercase (trim name)) := by
  have kept : 'İ' ∉ trim name := fun member => plain ((trim_sublist name).subset member)
  exact (map_fold_lowercase kept).symm

/-- The names of a stated edge stand before and behind its arrow as they were read. -/
private theorem mentioned_of_stated {line : List Char} {written : Option (List Char)}
    (stated : Stated line edge source target written) (plain_source : 'İ' ∉ source)
    (plain_target : 'İ' ∉ target) : Mentioned line edge.source.toList edge.target.toList := by
  obtain ⟨before, blanks, gap, after, cut, blank, gap_blank⟩ := stated.names
  obtain ⟨front, back, source_split, _, back_blank⟩ := trim_split source
  obtain ⟨lead, trail, target_split, lead_blank, _⟩ := trim_split target
  rw [stated.source_eq, stated.target_eq, normalName_ofList, normalName_ofList,
    mentioned_iff_arrow]
  refine ⟨_, _, cut, ⟨before ++ front, trim source, back ++ blanks, ?_, ?_, ?_⟩,
    ⟨gap ++ lead, trim target, trail ++ after, ?_, ?_, ?_⟩⟩
  · conv => lhs; rw [source_split]
    simp
  · exact alike_lowercase_trim plain_source
  · exact List.forall_mem_append.mpr ⟨back_blank, blank⟩
  · conv => lhs; rw [target_split]
    simp
  · exact List.forall_mem_append.mpr ⟨gap_blank, lead_blank⟩
  · exact alike_lowercase_trim plain_target

theorem StatedPlainly.mentioned (plainly : StatedPlainly content edge) :
    PairMentioned content edge.ends := by
  obtain ⟨line, listed, source, target, written, stated, plain_source, plain_target⟩ := plainly
  obtain ⟨before, after, cut⟩ := infix_of_mem_lines listed
  have mentioned := (mentioned_of_stated stated plain_source plain_target).around before after
  rwa [cut] at mentioned

/-- The lines that edges are read from. -/
theorem mem_relationships_iff : edge ∈ relationships content ↔
    ∃ line ∈ lines content.toList, ∃ source target written,
      Stated line edge source target written := by
  rw [relationships, List.mem_filterMap]
  constructor
  · rintro ⟨line, listed, read⟩
    exact ⟨line, listed, relationshipOfLine_sound read⟩
  · rintro ⟨line, listed, source, target, written, stated⟩
    exact ⟨line, listed, stated.read⟩

private theorem statedPlainly_of_not_mem (plain : 'İ' ∉ content.toList)
    (member : edge ∈ relationships content) : StatedPlainly content edge := by
  obtain ⟨line, listed, source, target, written, stated⟩ := mem_relationships_iff.mp member
  obtain ⟨from_source, from_target, _⟩ := stated.subset
  have absent : 'İ' ∉ line := fun inside => plain ((infix_of_mem_lines listed).subset inside)
  exact ⟨line, listed, source, target, written, stated, fun inside => absent (from_source inside),
    fun inside => absent (from_target inside)⟩

theorem Alike.last (alike : Alike text other) :
    text.getLast?.any isBlank = other.getLast?.any isBlank := by
  have same := congrArg (fun folded => folded.getLast?.any isBlank) alike
  simpa only [List.getLast?_map, Option.any_map, Function.comp_def, isBlank_fold] using same

theorem Alike.head (alike : Alike text other) :
    text.head?.any isBlank = other.head?.any isBlank := by
  have same := congrArg (fun folded => folded.head?.any isBlank) alike
  simpa only [List.head?_map, Option.any_map, Function.comp_def, isBlank_fold] using same

private theorem Alike.ne_nil (alike : Alike text other) (nonempty : other ≠ []) : text ≠ [] := by
  rintro rfl
  exact nonempty (List.map_eq_nil_iff.mp alike.symm)

/-- Behind the last place of a character it does not come again. -/
private theorem exists_last_of_mem {c : Char} {text : List Char} (member : c ∈ text) :
    ∃ before after, text = before ++ c :: after ∧ c ∉ after := by
  obtain ⟨after, before, split, absent⟩ := List.eq_append_cons_of_mem (List.mem_reverse.mpr member)
  refine ⟨before.reverse, after.reverse, ?_, by simpa using absent⟩
  rw [← List.reverse_reverse text, split]
  simp

/-- A visible end stays when the blanks behind it are cut off. -/
private theorem trimEnd_behind (nonempty : text ≠ []) (visible : text.getLast?.any isBlank = false)
    (blank : Blanks blanks) (before : List Char) :
    trimEnd (before ++ text ++ blanks) = before ++ text := by
  rw [trimEnd_append_blank blank, trimEnd_of_last]
  rwa [List.getLast?_append_of_ne_nil before nonempty]

/-- A visible start stays when the blanks before it are cut off. -/
private theorem trimStart_before (nonempty : text ≠ []) (visible : text.head?.any isBlank = false)
    (blank : Blanks blanks) (after : List Char) :
    trimStart (blanks ++ text ++ after) = text ++ after := by
  rw [List.append_assoc]
  refine trimStart_blanks_append blank ?_
  rwa [List.head?_append_of_ne_nil text nonempty]

section Dotted

variable {name : List Char} (trimmed : Trimmed name) (dotted : 'İ' ∈ name)
include trimmed dotted

/-- What ends in the name does not end in its lower-case form: behind the last dotted I the two go
on alike, but before that the one has the I itself and the other a dot. -/
private theorem not_nameBefore_of_dotted (before : List Char) (blank : Blanks blanks) :
    ¬ NameBefore (before ++ name ++ blanks) (lowercase name) := by
  rintro ⟨lead, front, gap, cut, alike, gap_blank⟩
  have some_name := List.ne_nil_of_mem dotted
  have some_front := alike.ne_nil (lowercase_ne_nil some_name)
  have visible : front.getLast?.any isBlank = false := alike.last.trans trimmed.lowercase.last
  have same : before ++ name = lead ++ front := by
    rw [← trimEnd_behind some_name trimmed.last blank before, cut, ← List.append_assoc,
      trimEnd_behind some_front visible gap_blank lead]
  obtain ⟨first, back, rfl, plain⟩ := exists_last_of_mem dotted
  obtain ⟨lowered, whole, _⟩ := lowercaseAfter_append [] first ('İ' :: back)
  have folded := congrArg (List.map fold) same
  rw [Alike, lowercase, whole, lowercaseAfter_cons, lowerBetween_dotted] at alike
  have whole_fold : (lead ++ front).map fold = _ := List.map_append
  rw [whole_fold, alike] at folded
  simp only [List.map_append, List.map_cons, List.map_nil, map_fold_lowercaseAfter plain] at folded
  have ends : (before.map fold ++ first.map fold) ++ fold 'İ' :: back.map fold =
      (lead.map fold ++ lowered.map fold ++ [fold 'i']) ++ fold '\u0307' :: back.map fold := by
    simpa using folded
  have long : (fold 'İ' :: back.map fold).length = (fold '\u0307' :: back.map fold).length := by
    simp only [List.length_cons]
  have clash : fold 'İ' = fold '\u0307' := (List.cons.inj (List.append_inj_right' ends long)).1
  revert clash
  decide +kernel

/-- What starts with the name does not start with its lower-case form: up to the first dotted I the
two are alike, and there the one has the I itself and the other one without a dot. -/
private theorem not_nameBehind_of_dotted (after : List Char) (blank : Blanks blanks) :
    ¬ NameBehind (blanks ++ name ++ after) (lowercase name) := by
  rintro ⟨gap, back, rest, cut, gap_blank, alike⟩
  have some_name := List.ne_nil_of_mem dotted
  have some_back := alike.ne_nil (lowercase_ne_nil some_name)
  have visible : back.head?.any isBlank = false := alike.head.trans trimmed.lowercase.head
  have same : name ++ after = back ++ rest := by
    rw [← trimStart_before some_name trimmed.head blank after, cut, ← List.append_assoc,
      trimStart_before some_back visible gap_blank rest]
  obtain ⟨front, later, rfl, plain⟩ := List.eq_append_cons_of_mem dotted
  obtain ⟨lowered, whole, folds⟩ := lowercaseAfter_append [] front ('İ' :: later)
  have folded := congrArg (List.map fold) same
  rw [Alike, lowercase, whole, lowercaseAfter_cons, lowerBetween_dotted] at alike
  have whole_fold : (back ++ rest).map fold = _ := List.map_append
  rw [whole_fold, alike] at folded
  simp only [List.map_append, List.map_cons, folds plain, List.append_assoc] at folded
  have clash : fold 'İ' = fold 'i' := (List.cons.inj (List.append_cancel_left folded)).1
  revert clash
  decide +kernel

end Dotted

/-- The text has an arrow, and only one. -/
def OneArrow (text : List Char) : Prop :=
  ∃ front back, text = front ++ '-' :: '>' :: back ∧ Arrowless front ∧ Arrowless back

/-- If a text has only one arrow, then what it states with a dotted I it does not mention. -/
private theorem not_mentioned_of_dotted {content : String} {line : List Char}
    {written : Option (List Char)}
    (one : OneArrow content.toList) (listed : line ∈ lines content.toList)
    (stated : Stated line edge source target written) (dotted : 'İ' ∈ source ∨ 'İ' ∈ target) :
    ¬ PairMentioned content edge.ends := by
  obtain ⟨first, second, whole, first_free, second_free⟩ := one
  obtain ⟨front, back, around⟩ := infix_of_mem_lines listed
  obtain ⟨before, blanks, gap, after, cut, blank, gap_blank⟩ := stated.names
  obtain ⟨lead, trail, source_split, lead_blank, trail_blank⟩ := trim_split source
  obtain ⟨start, rest, target_split, start_blank, rest_blank⟩ := trim_split target
  have here : first ++ '-' :: '>' :: second = (front ++ before ++ source ++ blanks) ++
      '-' :: '>' :: (gap ++ target ++ after ++ back) := by
    rw [← whole, ← around, cut]
    simp
  obtain ⟨first_eq, second_eq⟩ := arrow_unique first_free second_free here
  intro mentioned
  rw [PairMentioned, mentioned_iff_arrow] at mentioned
  obtain ⟨text, other, split, named, pointed⟩ := mentioned
  obtain ⟨rfl, rfl⟩ := arrow_unique first_free second_free (whole.symm.trans split)
  have visible : isBlank 'İ' = false := by decide
  rw [Relationship.ends, stated.source_eq, normalName_ofList, ← first_eq] at named
  rw [Relationship.ends, stated.target_eq, normalName_ofList, ← second_eq] at pointed
  rcases dotted with dotted | dotted
  · refine not_nameBefore_of_dotted (trim_trimmed source) (mem_trim visible dotted)
      (front ++ before ++ lead) (List.forall_mem_append.mpr ⟨trail_blank, blank⟩) ?_
    convert named using 1
    conv => rhs; rw [source_split]
    simp
  · refine not_nameBehind_of_dotted (trim_trimmed target) (mem_trim visible dotted)
      (rest ++ after ++ back) (List.forall_mem_append.mpr ⟨gap_blank, start_blank⟩) ?_
    convert pointed using 1
    conv => rhs; rw [target_split]
    simp

private theorem arrowless_of_blanks (blank : Blanks blanks) : Arrowless blanks := by
  refine arrowless_of_not_mem fun dash => ?_
  have hidden := blank '-' dash
  revert hidden
  decide

/-- The arrow of a line is found where it was written, or in the name before it. -/
private theorem splitArrow_written {front target tail : List Char} (some_front : front ≠ [])
    (trimmed : Trimmed target) (named : target ≠ []) (spaced : tail.head?.any isBlank = true)
    (split : splitArrow (front ++ ' ' :: '-' :: '>' :: ' ' :: (target ++ tail)) =
      some (source, rest)) :
    source <+: front ∧ ∃ before more, front ++ ' ' :: '-' :: '>' :: ' ' :: target = before ++ more ∧
      more ≠ [] ∧ rest = more ++ tail := by
  have visible : (target ++ tail).head?.any isBlank = false := head_of_trimmed trimmed named tail
  have reads : (arrowTarget? (' ' :: '-' :: '>' :: ' ' :: (target ++ tail))).isSome = true := by
    rw [arrowTarget_spaced (by simp [named]) visible]
    rfl
  rw [splitArrow_eq] at split
  obtain ⟨found, _, early, inside⟩ := splitFirst_prefix some_front reads
  obtain rfl : found = source := (Prod.mk.inj (Option.some.inj (early.symm.trans split))).1
  refine ⟨inside, ?_⟩
  obtain ⟨others, rfl⟩ := inside
  obtain ⟨behind, cut, _, finds⟩ := splitFirst_sound split
  obtain ⟨blanks, gap, blank, _, gap_blank, _, rfl, _, rest_visible⟩ :=
    arrowTarget_eq_some_iff.mp finds
  have same : (found ++ others ++ ' ' :: '-' :: '>' :: ' ' :: target) ++ tail =
      (found ++ blanks ++ '-' :: '>' :: gap) ++ rest := by
    simpa using cut
  rcases List.append_eq_append_iff.mp same with ⟨more, beyond, _⟩ | ⟨more, whole, ends⟩
  · -- the blanks behind the arrow that is read cannot reach over the written target
    have inner : blanks ++ '-' :: '>' :: gap =
        (others ++ [' ']) ++ '-' :: '>' :: (' ' :: (target ++ more)) := by
      simpa using beyond
    obtain ⟨_, reach⟩ :=
      arrow_unique (arrowless_of_blanks blank) (arrowless_of_blanks gap_blank) inner
    obtain ⟨c, name, rfl⟩ := List.exists_cons_of_ne_nil named
    have hidden := gap_blank c (by simp [← reach])
    have shown := trimmed.head
    simp [hidden] at shown
  · refine ⟨_, more, whole, ?_, ends⟩
    rintro rfl
    rw [ends, List.nil_append, spaced] at rest_visible
    cases rest_visible

/-- The kind of a line is cut off where it was written, or earlier. -/
private theorem splitKind_written {written : Option (List Char)} (some_text : text ≠ [])
    (closed : ')' ∉ kind)
    (split : splitKind (text ++ ' ' :: '(' :: (kind ++ [')'])) = (target, written)) :
    target <+: text := by
  have reads : (parenthesised? (' ' :: '(' :: (kind ++ [')']))).isSome = true := by
    rw [parenthesised_spaced closed]
    rfl
  obtain ⟨found, _, early, inside⟩ := splitFirst_prefix some_text reads
  rw [splitKind_eq, early] at split
  cases split
  exact inside

/-- The names that are read from a written line were in the names before its kind. -/
private theorem names_of_written {edge again : Relationship} {written : Option (List Char)}
    (normal : normalName edge.source = edge.source ∧ normalName edge.target = edge.target)
    (named : edge.source ≠ "" ∧ edge.target ≠ "") (closed : ')' ∉ edge.kind.toList)
    (stated : Stated (line edge).toList again source target written) :
    source <+: edge.source.toList ∧ ∃ more, target <+: more ∧
      more <:+ edge.source.toList ++ ' ' :: '-' :: '>' :: ' ' :: edge.target.toList := by
  have source_trimmed := ((normalName_eq_self_iff _).mp normal.1).1
  have target_trimmed := ((normalName_eq_self_iff _).mp normal.2).1
  have some_source : edge.source.toList ≠ [] := by simpa using named.1
  have some_target : edge.target.toList ≠ [] := by simpa using named.2
  obtain ⟨item, rest, found, arrow, split⟩ := stated.splits
  rw [itemText_line edge source_trimmed named.1] at found
  cases found
  have spaced : (' ' :: '(' :: (edge.kind.toList ++ [')'])).head?.any isBlank = true :=
    (by decide : isBlank ' ' = true)
  obtain ⟨inside, before, more, whole, some_more, rfl⟩ :=
    splitArrow_written some_source target_trimmed some_target spaced arrow
  refine ⟨inside, more, ?_, before, whole.symm⟩
  have kept := trimEnd_lineEnd more edge.kind.toList
  rw [lineEnd] at kept
  rw [kept] at split
  exact splitKind_written some_more closed split

private theorem dotted_not_mem_normalName (name : String) : 'İ' ∉ (normalName name).toList := by
  intro member
  have fixed := (normalName_lowered name 'İ' member).fixed
  revert fixed
  decide

/-- Names are written in lower case, so a written line mentions whatever is read from it. -/
private theorem mentioned_of_read_again {edge again : Relationship}
    (member : edge ∈ relationships content)
    (read : again ∈ relationships (line edge)) : Mentioned (line edge).toList again.source.toList
      again.target.toList := by
  obtain ⟨_, _, source, target, written, stated⟩ := mem_relationships_iff.mp member
  rw [relationships_line (oneLine_of_mem_relationships member), Option.mem_toList] at read
  obtain ⟨front, back, kind, stated_again⟩ := relationshipOfLine_sound read
  have normal : normalName edge.source = edge.source ∧ normalName edge.target = edge.target := by
    rw [stated.source_eq, stated.target_eq]
    exact ⟨normalName_normalName _, normalName_normalName _⟩
  obtain ⟨inside, more, starts, ends⟩ := names_of_written normal
    ⟨stated.source_named, stated.target_named⟩ stated.readKind.closed stated_again
  have source_plain : 'İ' ∉ edge.source.toList := normal.1 ▸ dotted_not_mem_normalName edge.source
  have target_plain : 'İ' ∉ edge.target.toList := normal.2 ▸ dotted_not_mem_normalName edge.target
  refine mentioned_of_stated stated_again (fun dotted => source_plain (inside.subset dotted)) ?_
  intro dotted
  have within := ends.subset (starts.subset dotted)
  simp [source_plain, target_plain] at within

private theorem read_again {content : String} {edges : List Relationship}
    (own : ∀ edge ∈ edges, edge ∈ relationships content)
    (member : again ∈ relationships (linesText edges)) :
    Mentioned (linesText edges).toList again.source.toList again.target.toList := by
  rw [relationships_linesText, List.mem_flatMap] at member
  obtain ⟨edge, listed, read⟩ := member
  obtain ⟨before, after, rfl⟩ := List.append_of_mem listed
  have mentioned := mentioned_of_read_again (own edge listed) read
  have text : (linesText (before ++ edge :: after)).toList = (linesText before).toList ++
      (line edge).toList ++ ('\n' :: (linesText after).toList) := by
    simp [linesText]
  rw [text]
  exact mentioned.around _ _

/-- Once its own edges have been written back, a text mentions whatever is read from it. -/
private theorem updated_own_mentioned (content : String) :
    let after := updated content (relationships content)
    ∀ edge ∈ relationships after, PairMentioned after edge.ends := by
  intro after edge member
  have own : ∀ edge ∈ relationships content, PairMentioned after edge.ends :=
    fun edge => pairMentioned_updated content
  by_cases none_missing : missing content (relationships content) = []
  · have same : after = content := updated_eq_self_iff.mpr none_missing
    exact own edge (same ▸ member)
  · have split : after = content ++ separator content.toList ++
        linesText (missing content (relationships content)) := by
      rw [String.append_assoc]
      exact (updated_eq _ _).trans (by rw [addition, if_neg none_missing])
    rw [split, relationships_separator, List.mem_append] at member
    rcases member with before | behind
    · exact own edge before
    · have known := read_again (fun edge => ((missing_sublist _ _).subset ·)) behind
      rw [PairMentioned, split, String.toList_append]
      simpa [Relationship.ends] using known.around (content ++ separator content.toList).toList []

/-- Writing back what a text says itself. Whatever a line states by names without the dotted capital
I is mentioned, and so there is nothing to append to a text in which every edge is stated like that.
With one arrow in the text that is also needed. In any case there is nothing to append a second
time. -/
theorem render_own_edges (content : String) :
    (∀ edge ∈ relationships content, StatedPlainly content edge →
      PairMentioned content edge.ends) ∧
    ((∀ edge ∈ relationships content, StatedPlainly content edge) →
      render content (relationships content) = none) ∧
    ('İ' ∉ content.toList → render content (relationships content) = none) ∧
    (OneArrow content.toList → (render content (relationships content) = none ↔
      ∀ edge ∈ relationships content, StatedPlainly content edge)) ∧
    let after := updated content (relationships content)
    render after (relationships after) = none := by
  have silent (plain : ∀ edge ∈ relationships content, StatedPlainly content edge) :
      render content (relationships content) = none :=
    render_eq_none_iff.mpr (missing_eq_nil_iff.mpr fun edge member => (plain edge member).mentioned)
  refine ⟨fun edge _ => StatedPlainly.mentioned, silent, ?_, ?_, ?_⟩
  · intro plain
    exact silent fun edge => statedPlainly_of_not_mem plain
  · intro one
    refine ⟨?_, silent⟩
    intro nothing edge member
    have mentioned := missing_eq_nil_iff.mp (render_eq_none_iff.mp nothing) edge member
    obtain ⟨line, listed, source, target, written, stated⟩ := mem_relationships_iff.mp member
    by_contra dotted
    refine not_mentioned_of_dotted one listed stated ?_ mentioned
    by_contra plain
    rw [not_or] at plain
    exact dotted ⟨line, listed, source, target, written, stated, plain⟩
  · exact render_eq_none_iff.mpr (missing_eq_nil_iff.mpr (updated_own_mentioned content))

/-- A final sigma, capitals and wide blanks around the only arrow. -/
theorem render_own_edges_after_sigma :
    let content := "Notes:\n-\tΛόΓΟΣ \t->   Ledger-DB (Reads)\n"
    let edge : Relationship := ⟨"λόγος", "ledger-db", "Reads"⟩
    relationships content = [edge] ∧ StatedPlainly content edge ∧ OneArrow content.toList ∧
      PairMentioned content edge.ends ∧ render content (relationships content) = none := by
  intro content edge
  have plain : 'İ' ∉ content.toList := by decide
  have read : relationships content = [edge] := by decide +kernel
  have member : edge ∈ relationships content := read ▸ List.mem_singleton_self edge
  have stated : StatedPlainly content edge := statedPlainly_of_not_mem plain member
  have one : OneArrow content.toList := by
    exact ⟨"Notes:\n-\tΛόΓΟΣ \t".toList, "   Ledger-DB (Reads)\n".toList, by decide, by decide,
      by decide⟩
  obtain ⟨mentioned, silent, _, exact_if, _⟩ := render_own_edges content
  have all : ∀ other ∈ relationships content, StatedPlainly content other :=
    fun other => statedPlainly_of_not_mem plain
  exact ⟨read, stated, one, mentioned edge member stated, (exact_if one).mpr all⟩

/-- The dotted capital I is in lower case a letter and a dot, and no letter case leads from these
back to it: the edge is written again below the line that states it. -/
theorem own_edge_written_again :
    ¬ ∀ content : String, render content (relationships content) = none := by
  intro silent
  have written := silent "- İ -> x"
  revert written
  decide +kernel

end DevlogGraph.Ledger
