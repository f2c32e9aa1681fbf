import DevlogGraph.Proofs.Pattern.Rule

/-! A search finds the longest word of its rule at the first place where there is one, and goes on
behind it. What it finds is described by what it covers: no word of the rule starts anywhere else. -/
namespace DevlogGraph.Pattern

/-- The place behind the occurrence. -/
def Occurrence.stop (occurrence : Occurrence) : Nat := occurrence.start + occurrence.text.length

namespace Rule

/-- A rule reaches as far as the longest of its words that start a text. -/
theorem length_le_reach {rule : Rule} (found : Matches rule word) (starts : word <+: text) :
    ∃ length, rule.reach text = some length ∧ word.length ≤ length := by
  induction text generalizing rule word with
  | nil =>
    obtain rfl := List.prefix_nil.mp starts
    exact ⟨0, by rw [reach, if_pos ((acceptsEmpty_iff rule).mpr found)], Nat.le_refl 0⟩
  | cons c rest ih =>
    have hopeful : rule ≠ never := by
      rintro rfl
      exact not_matches_never found
    rw [reach, if_neg hopeful]
    cases word with
    | nil =>
      rw [(acceptsEmpty_iff rule).mpr found]
      cases (rule.after c).reach rest with
      | none => exact ⟨0, rfl, Nat.le_refl 0⟩
      | some length => exact ⟨length + 1, rfl, Nat.zero_le _⟩
    | cons d later =>
      obtain ⟨rfl, inside⟩ := List.cons_prefix_cons.mp starts
      obtain ⟨length, reached, bound⟩ := ih ((matches_after_iff d rule).mpr found) inside
      exact ⟨length + 1, by rw [reached], Nat.succ_le_succ bound⟩

end Rule

/-- What a search for certain words finds in a text from `origin` on. -/
structure Scan (Word : List Char → Prop) (text : List Char) (origin : Nat)
    (found : List Occurrence) : Prop where
  ordered : found.Pairwise fun earlier later => earlier.stop ≤ later.start
  behind : ∀ occurrence ∈ found, origin ≤ occurrence.start
  placed : ∀ occurrence ∈ found, occurrence.text <+: text.drop occurrence.start
  word : ∀ occurrence ∈ found, Word occurrence.text
  longest : ∀ occurrence ∈ found, ∀ word, word <+: text.drop occurrence.start → Word word →
    word.length ≤ occurrence.text.length
  covered : ∀ start word, origin ≤ start → word <+: text.drop start → Word word →
    ∃ occurrence ∈ found, occurrence.start ≤ start ∧ start < occurrence.stop

namespace Scan

variable {Word : List Char → Prop} {text : List Char} {origin : Nat} {found : List Occurrence}

theorem nothing (proper : ¬ Word []) (ended : text.length ≤ origin) : Scan Word text origin [] where
  ordered := .nil
  behind := by simp
  placed := by simp
  word := by simp
  longest := by simp
  covered := by
    intro start word reached starts matched
    rw [List.drop_eq_nil_of_le (Nat.le_trans ended reached)] at starts
    exact absurd (List.prefix_nil.mp starts ▸ matched) proper

/-- No word starts at this place. -/
theorem pass (scan : Scan Word text (origin + 1) found)
    (silent : ∀ word, word <+: text.drop origin → ¬ Word word) : Scan Word text origin found where
  ordered := scan.ordered
  behind := fun occurrence member => Nat.le_of_succ_le (scan.behind occurrence member)
  placed := scan.placed
  word := scan.word
  longest := scan.longest
  covered := by
    intro start word reached starts matched
    rcases Nat.eq_or_lt_of_le reached with rfl | later
    · exact absurd matched (silent word starts)
    · exact scan.covered start word later starts matched

/-- The longest word at this place is taken, and the search goes on behind it. -/
theorem take {first : Occurrence} (scan : Scan Word text first.stop found)
    (placed : first.text <+: text.drop first.start) (matched : Word first.text)
    (longest : ∀ word, word <+: text.drop first.start → Word word →
      word.length ≤ first.text.length) :
    Scan Word text first.start (first :: found) where
  ordered := List.pairwise_cons.mpr ⟨scan.behind, scan.ordered⟩
  behind := by
    intro occurrence member
    rcases List.mem_cons.mp member with rfl | later
    · exact Nat.le_refl _
    · exact Nat.le_trans (Nat.le_add_right _ _) (scan.behind occurrence later)
  placed := List.forall_mem_cons.mpr ⟨placed, scan.placed⟩
  word := List.forall_mem_cons.mpr ⟨matched, scan.word⟩
  longest := List.forall_mem_cons.mpr ⟨longest, scan.longest⟩
  covered := by
    intro start word reached starts others
    by_cases inside : start < first.stop
    · exact ⟨first, List.mem_cons_self, reached, inside⟩
    · obtain ⟨occurrence, member, bounds⟩ :=
        scan.covered start word (Nat.le_of_not_lt inside) starts others
      exact ⟨occurrence, List.mem_cons_of_mem first member, bounds⟩

/-- Two occurrences do not start at one place. -/
theorem increasing (scan : Scan Word text origin found) (proper : ¬ Word []) :
    found.Pairwise fun earlier later => earlier.start < later.start := by
  refine scan.ordered.imp_of_mem fun member _ apart => Nat.lt_of_lt_of_le ?_ apart
  refine Nat.lt_add_of_pos_right (List.length_pos_iff.mpr fun empty => proper ?_)
  exact empty ▸ scan.word _ member

end Scan

namespace Rule

variable {rule : Rule}

/-- A search in the middle of a text: some of it lies behind, and some of it is taken already. -/
private theorem scan_occurrencesFrom (proper : ¬ Matches rule []) (before rest : List Char)
    (skip : Nat) : Scan (Matches rule) (before ++ rest) (before.length + skip)
      (rule.occurrencesFrom before.length skip rest) := by
  induction rest generalizing before skip with
  | nil =>
    have none_left : rule.occurrencesFrom before.length skip [] = [] := by cases skip <;> rfl
    rw [none_left]
    exact .nothing proper (by simp)
  | cons c later ih =>
    -- one character more lies behind
    have next := ih (before ++ [c])
    rw [List.append_assoc, List.singleton_append, List.length_append, List.length_singleton] at next
    cases skip with
    | succ skip =>
      have onward := next skip
      rwa [Nat.add_right_comm, Nat.add_assoc] at onward
    | zero =>
      have ahead : (before ++ c :: later).drop before.length = c :: later := List.drop_left
      rw [occurrencesFrom]
      split
      · rename_i more reached
        obtain ⟨bound, matched⟩ := reach_matches reached
        have size : ((c :: later).take (more + 1)).length = more + 1 := List.length_take_of_le bound
        have stop : (Occurrence.mk before.length ((c :: later).take (more + 1))).stop =
            before.length + 1 + more := by
          rw [Occurrence.stop, size, Nat.add_assoc, Nat.add_comm 1 more]
        have onward := next more
        rw [← stop] at onward
        refine onward.take ?_ matched ?_
        · rw [ahead]
          exact List.take_prefix _ _
        · intro word starts found
          rw [ahead] at starts
          obtain ⟨length, again, longer⟩ := length_le_reach found starts
          rw [reached] at again
          cases again
          rwa [size]
      · rename_i unreached
        refine (next 0).pass fun word starts matched => ?_
        rw [ahead] at starts
        obtain ⟨length, reached, bound⟩ := length_le_reach matched starts
        cases length with
        | succ more => exact unreached more reached
        | zero =>
          have empty := List.length_eq_zero_iff.mp (Nat.le_zero.mp bound)
          exact absurd (empty ▸ matched) proper

theorem scan_occurrences (proper : ¬ Matches rule []) (text : List Char) :
    Scan (Matches rule) text 0 (rule.occurrences text) :=
  scan_occurrencesFrom proper [] text 0

/-- An occurrence is as long as the rule reaches from its start. -/
theorem reach_of_scan {text : List Char} {origin : Nat} {found : List Occurrence}
    (scan : Scan (Matches rule) text origin found) (member : occurrence ∈ found) :
    rule.reach (text.drop occurrence.start) = some occurrence.text.length := by
  obtain ⟨length, reached, bound⟩ :=
    length_le_reach (scan.word occurrence member) (scan.placed occurrence member)
  obtain ⟨inside, matched⟩ := reach_matches reached
  have limit := scan.longest occurrence member _ (List.take_prefix length _) matched
  rw [List.length_take_of_le inside] at limit
  rw [reached, Nat.le_antisymm limit bound]

end Rule

end DevlogGraph.Pattern
