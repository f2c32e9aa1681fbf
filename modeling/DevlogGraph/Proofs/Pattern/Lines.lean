import Mathlib.Data.Set.Basic
import DevlogGraph.Proofs.Pattern.Arrow
import DevlogGraph.Proofs.Pattern.Entities

/-! Texts are read line by line. No word of an entity rule holds a line feed, so a search neither
crosses one nor starts at one, and behind it the search goes on as in a text of its own. -/
namespace DevlogGraph.Pattern

open Text

/-- The same stretch in a text with so many more characters before it. -/
def Occurrence.later (distance : Nat) (occurrence : Occurrence) : Occurrence :=
  { occurrence with start := occurrence.start + distance }

namespace Rule

/-- The mark stands in no word of the rule. -/
def Avoids (rule : Rule) (mark : Char) : Prop := ∀ word, Matches rule word → mark ∉ word

theorem Avoids.after (avoids : Avoids rule mark) (c : Char) : Avoids (rule.after c) mark := by
  intro word found member
  exact avoids (c :: word) ((matches_after_iff c rule).mp found) (List.mem_cons_of_mem c member)

/-- Behind a mark the rule reaches nothing. -/
private theorem Avoids.reach_after_mark (avoids : Avoids rule mark) (text : List Char) :
    (rule.after mark).reach text = none := by
  cases reached : (rule.after mark).reach text with
  | none => rfl
  | some length =>
    have word := (matches_after_iff mark rule).mp (reach_matches reached).2
    exact absurd List.mem_cons_self (avoids _ word)

/-- A mark ends the text for the rule. -/
theorem Avoids.reach_append (avoids : Avoids rule mark) (before after : List Char) :
    rule.reach (before ++ mark :: after) = rule.reach before := by
  induction before generalizing rule with
  | nil =>
    rw [List.nil_append, reach, reach, avoids.reach_after_mark]
    by_cases hopeless : rule = never
    · rw [if_pos hopeless, hopeless, acceptsEmpty]
      rfl
    · rw [if_neg hopeless]
  | cons c rest ih => rw [List.cons_append, reach, reach, ih (avoids.after c)]

/-- A search passes over a character at which the rule has no word. -/
theorem occurrencesFrom_pass {rule : Rule}
    (none_here : ∀ more, rule.reach (c :: rest) ≠ some (more + 1)) (start : Nat) :
    rule.occurrencesFrom start 0 (c :: rest) = rule.occurrencesFrom (start + 1) 0 rest := by
  rw [occurrencesFrom]
  split
  · rename_i more reached
    exact absurd reached (none_here more)
  · rfl

theorem occurrencesFrom_take {rule : Rule} (reached : rule.reach (c :: rest) = some (more + 1))
    (start : Nat) :
    rule.occurrencesFrom start 0 (c :: rest) =
      ⟨start, (c :: rest).take (more + 1)⟩ :: rule.occurrencesFrom (start + 1) more rest := by
  rw [occurrencesFrom, reached]

private theorem occurrencesFrom_later (rule : Rule) (distance start skip : Nat) (text : List Char) :
    rule.occurrencesFrom (start + distance) skip text =
      (rule.occurrencesFrom start skip text).map (.later distance) := by
  induction text generalizing start skip with
  | nil => cases skip <;> rfl
  | cons c rest ih =>
    have next : start + distance + 1 = start + 1 + distance := Nat.add_right_comm start distance 1
    cases skip with
    | succ skip => rw [occurrencesFrom, occurrencesFrom, next, ih]
    | zero =>
      by_cases found : ∃ more, rule.reach (c :: rest) = some (more + 1)
      · obtain ⟨more, reached⟩ := found
        rw [occurrencesFrom_take reached, occurrencesFrom_take reached, List.map_cons, next, ih]
        rfl
      · have none_here := not_exists.mp found
        rw [occurrencesFrom_pass none_here, occurrencesFrom_pass none_here, next, ih]

/-- The search up to a mark is that of the text before it, and then it starts anew. -/
private theorem Avoids.occurrencesFrom_append (avoids : Avoids rule mark) (after : List Char)
    (start : Nat) (inside : skip ≤ before.length) :
    rule.occurrencesFrom start skip (before ++ mark :: after) =
      rule.occurrencesFrom start skip before ++
        rule.occurrencesFrom (start + before.length + 1) 0 after := by
  induction before generalizing start skip with
  | nil =>
    obtain rfl : skip = 0 := Nat.le_zero.mp inside
    refine occurrencesFrom_pass ?_ start
    intro more reached
    have ended := avoids.reach_append [] after
    rw [List.nil_append, reached, reach] at ended
    split at ended <;> cases ended
  | cons c rest ih =>
    have next : start + (c :: rest).length + 1 = start + 1 + rest.length + 1 := by
      rw [List.length_cons]
      omega
    have same_reach := avoids.reach_append (c :: rest) after
    rw [next]
    rw [List.cons_append] at same_reach ⊢
    cases skip with
    | succ skip =>
      rw [occurrencesFrom, occurrencesFrom, ih _ (Nat.le_of_succ_le_succ inside)]
    | zero =>
      by_cases found : ∃ more, rule.reach (c :: rest) = some (more + 1)
      · -- the word ends before the mark, so both searches skip the same characters
        obtain ⟨more, reached⟩ := found
        have within : more + 1 ≤ (c :: rest).length := (reach_matches reached).1
        have word : (c :: (rest ++ mark :: after)).take (more + 1) = (c :: rest).take (more + 1) :=
          List.take_append_of_le_length within
        rw [occurrencesFrom_take reached, occurrencesFrom_take (same_reach.trans reached), word,
          ih _ (Nat.le_of_succ_le_succ within), List.cons_append]
      · have none_here := not_exists.mp found
        rw [occurrencesFrom_pass none_here,
          occurrencesFrom_pass (by rw [same_reach]; exact none_here), ih _ (Nat.zero_le _)]

theorem Avoids.occurrences_append (avoids : Avoids rule mark) (before after : List Char) :
    rule.occurrences (before ++ mark :: after) = rule.occurrences before ++
      (rule.occurrences after).map (.later (before.length + 1)) := by
  have start : 0 + before.length + 1 = 0 + (before.length + 1) := by omega
  unfold occurrences
  rw [avoids.occurrencesFrom_append after 0 (Nat.zero_le _), start, occurrencesFrom_later]

end Rule

/-- No rule for entities has a word with a line feed in it. -/
private theorem rules_avoid_feed (listed : rule ∈ rules) : rule.Avoids '\n' := by
  intro word found member
  have visible := Rule.isBlank_of_matches found (rules_visible rule listed) '\n' member
  cases visible

private theorem wordsOf_append_feed (listed : rule ∈ rules) (before after : List Char) :
    wordsOf (before ++ '\n' :: after) rule = wordsOf before rule ++ wordsOf after rule := by
  rw [wordsOf, (rules_avoid_feed listed).occurrences_append, List.filterMap_append,
    List.filterMap_map]
  rfl

private theorem mem_words_append_feed (before after : List Char) :
    word ∈ words (before ++ '\n' :: after) ↔ word ∈ words before ∨ word ∈ words after := by
  simp only [words, List.mem_eraseDups, List.mem_flatMap]
  constructor
  · rintro ⟨rule, listed, member⟩
    rw [wordsOf_append_feed listed, List.mem_append] at member
    exact member.imp (⟨rule, listed, ·⟩) (⟨rule, listed, ·⟩)
  · rintro (⟨rule, listed, member⟩ | ⟨rule, listed, member⟩)
    · exact ⟨rule, listed, by rw [wordsOf_append_feed listed]; exact List.mem_append_left _ member⟩
    · exact ⟨rule, listed, by rw [wordsOf_append_feed listed]; exact List.mem_append_right _ member⟩

private theorem mem_entities_append_feed (before after : String) :
    entity ∈ entities (before ++ "\n" ++ after) ↔
      entity ∈ entities before ∨ entity ∈ entities after := by
  have cut : (before ++ "\n" ++ after).toList = before.toList ++ '\n' :: after.toList := by simp
  simp only [entities, cut, List.mem_map, mem_words_append_feed]
  constructor
  · rintro ⟨word, member, made⟩
    exact member.imp (⟨word, ·, made⟩) (⟨word, ·, made⟩)
  · rintro (⟨word, member, made⟩ | ⟨word, member, made⟩)
    · exact ⟨word, .inl member, made⟩
    · exact ⟨word, .inr member, made⟩

/-- The names of the entities that the rules find. -/
def namesIn (text : String) : Set String := {name | ∃ entity ∈ entities text, entity.name = name}

/-- What stands in the lines of a text is read as if the text were cut at any of its line feeds: the
edges and the matches of each rule follow one another, with the matches behind the line feed moved
by what stands before them, and an entity is found if it is found on either side. -/
theorem findings_line_by_line (before after : String) :
    let whole := before ++ "\n" ++ after
    relationships whole = relationships before ++ relationships after ∧
    (∀ rule ∈ rules, rule.occurrences whole.toList = rule.occurrences before.toList ++
      (rule.occurrences after.toList).map (.later (before.toList.length + 1))) ∧
    (∀ entity, entity ∈ entities whole ↔ entity ∈ entities before ∨ entity ∈ entities after) ∧
    namesIn whole = namesIn before ∪ namesIn after := by
  intro whole
  refine ⟨relationships_append_mark before after, ?_,
    fun _ => mem_entities_append_feed before after, ?_⟩
  · intro rule listed
    have cut : whole.toList = before.toList ++ '\n' :: after.toList := by simp [whole]
    rw [cut]
    exact (rules_avoid_feed listed).occurrences_append _ _
  · ext name
    simp only [namesIn, whole, mem_entities_append_feed, Set.mem_union, Set.mem_ofPred_eq,
      or_and_right, exists_or]

/-- The first line ends in a carriage return, which stands at the end of a text when it is alone. -/
theorem findings_line_by_line_after_return :
    let before := "- LoginPage -> mcp-sse (uses)\r"
    let after := "- mcp-sse -> nginx"
    let whole := before ++ "\n" ++ after
    relationships whole =
      [⟨"loginpage", "mcp-sse", "uses"⟩, ⟨"mcp-sse", "nginx", "depends_on"⟩] ∧
    kebabCase ∈ rules ∧
    kebabCase.occurrences whole.toList = [⟨15, "mcp-sse".toList⟩, ⟨33, "mcp-sse".toList⟩] ∧
    "loginpage" ∈ namesIn whole ∧ "nginx" ∈ namesIn whole := by
  intro before after whole
  obtain ⟨edges, matched, _, names⟩ := findings_line_by_line before after
  have listed : kebabCase ∈ rules := by decide +kernel
  refine ⟨edges.trans (by decide +kernel), listed,
    (matched kebabCase listed).trans (by decide +kernel), ?_, ?_⟩
  · rw [names]
    left
    exact List.mem_map.mp (by rw [entities_names]; decide +kernel)
  · rw [names]
    right
    exact List.mem_map.mp (by rw [entities_names]; decide +kernel)

end DevlogGraph.Pattern
