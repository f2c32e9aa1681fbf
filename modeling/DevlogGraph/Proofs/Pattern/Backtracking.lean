import DevlogGraph.Pattern.Entities
import DevlogGraph.Proofs.Pattern.Ways

/-! The entity rules under a backtracking search: for each of them no way of matching is longer than
the first one, mostly because neighbouring parts exclude each other's characters. -/
namespace DevlogGraph.Pattern

/-- No character belongs to both classes; some pairs of which this is true are not recognised. -/
def CharClass.excludes : CharClass → CharClass → Bool
  | exactly letter, other => !other.holds letter
  | other, exactly letter => !other.holds letter
  | caseless letter, caseless other => !Text.sameFold letter other
  | upper, lower => true
  | lower, upper => true
  | _, _ => false

private theorem upper_apart_lower (capital : CharClass.upper.holds c = true) :
    CharClass.lower.holds c = false := by
  simp only [CharClass.holds, Bool.and_eq_true, decide_eq_true_eq, Char.le_def] at capital
  rw [Bool.eq_false_iff]
  intro small
  simp only [CharClass.holds, Bool.and_eq_true, decide_eq_true_eq, Char.le_def] at small
  exact absurd (Nat.le_trans small.1 capital.2) (by decide)

/-- The pairs of classes that are recognised. -/
private theorem CharClass.excludes_cases {cls other : CharClass}
    (apart : cls.excludes other = true) :
    (∃ letter, cls = exactly letter ∧ other.holds letter = false) ∨
    (∃ letter, other = exactly letter ∧ cls.holds letter = false) ∨
    (∃ letter more, cls = caseless letter ∧ other = caseless more ∧ Text.sameFold letter more = false) ∨
    (cls = upper ∧ other = lower) ∨ (cls = lower ∧ other = upper) := by
  by_cases exact_first : ∃ letter, cls = exactly letter
  · obtain ⟨letter, rfl⟩ := exact_first
    exact .inl ⟨letter, rfl, (Bool.not_eq_true' _).mp apart⟩
  by_cases exact_second : ∃ letter, other = exactly letter
  · obtain ⟨letter, rfl⟩ := exact_second
    refine .inr (.inl ⟨letter, rfl, (Bool.not_eq_true' _).mp ?_⟩)
    cases cls with
    | exactly more => exact absurd ⟨more, rfl⟩ exact_first
    | _ => exact apart
  cases cls with
  | exactly letter => exact absurd ⟨letter, rfl⟩ exact_first
  | upper =>
    cases other with
    | lower => exact .inr (.inr (.inr (.inl ⟨rfl, rfl⟩)))
    | exactly letter => exact absurd ⟨letter, rfl⟩ exact_second
    | _ => cases apart
  | lower =>
    cases other with
    | upper => exact .inr (.inr (.inr (.inr ⟨rfl, rfl⟩)))
    | exactly letter => exact absurd ⟨letter, rfl⟩ exact_second
    | _ => cases apart
  | caseless letter =>
    cases other with
    | caseless more => exact .inr (.inr (.inl ⟨letter, more, rfl, rfl, (Bool.not_eq_true' _).mp apart⟩))
    | exactly letter => exact absurd ⟨letter, rfl⟩ exact_second
    | _ => cases apart
  | _ =>
    cases other with
    | exactly letter => exact absurd ⟨letter, rfl⟩ exact_second
    | _ => cases apart

private theorem CharClass.not_holds_of_excludes {cls other : CharClass}
    (apart : cls.excludes other = true) (held : cls.holds c = true) : other.holds c = false := by
  rcases excludes_cases apart with ⟨letter, rfl, absent⟩ | ⟨letter, rfl, absent⟩ |
    ⟨letter, more, rfl, rfl, unlike⟩ | ⟨rfl, rfl⟩ | ⟨rfl, rfl⟩
  · obtain rfl : c = letter := eq_of_beq held
    exact absent
  · rw [Bool.eq_false_iff]
    intro same
    obtain rfl : c = letter := eq_of_beq same
    rw [absent] at held
    cases held
  · simp only [holds, Text.sameFold, beq_iff_eq] at held
    simpa [holds, Text.sameFold, held] using unlike
  · exact upper_apart_lower held
  · rw [Bool.eq_false_iff]
    intro capital
    rw [upper_apart_lower capital] at held
    cases held

namespace Rule

/-- No text has a way through both rules, as their first characters show; some pairs of which this is
true are not recognised. -/
def clash : Rule → Rule → Bool
  | first, either left right => clash first left && clash first right
  | first, one other =>
      match first with
      | seq (one cls) _ => cls.excludes other
      | _ => false
  | first, seq other rest =>
      clash first other ||
        match first, other with
        | seq (one _) later, one _ => clash later rest
        | _, _ => false
  | _, _ => false

theorem ways_of_clash {first second : Rule} (apart : clash first second = true) (text : List Char) :
    first.ways text = [] ∨ second.ways text = [] := by
  induction second generalizing first text with
  | either left right ihLeft ihRight =>
    rw [clash, Bool.and_eq_true] at apart
    rcases ihLeft apart.1 text with silent | here
    · exact .inl silent
    · rcases ihRight apart.2 text with silent | there
      · exact .inl silent
      · exact .inr (by rw [ways, here, there, List.append_nil])
  | one other =>
    unfold clash at apart
    split at apart
    · cases text with
      | nil => exact .inr rfl
      | cons c rest =>
        rename_i cls later
        by_cases held : cls.holds c = true
        · exact .inr (by simp [ways, CharClass.not_holds_of_excludes apart held])
        · exact .inl (by simp [ways, held])
    · cases apart
  | seq other rest ihOther ihRest =>
    unfold clash at apart
    rcases Bool.or_eq_true_iff.mp apart with here | behind
    · rcases ihOther here text with silent | silent
      · exact .inl silent
      · exact .inr (by rw [ways, silent, List.flatMap_nil])
    · split at behind
      · rename_i cls later head
        cases text with
        | nil => exact .inl rfl
        | cons c after =>
          rcases ihRest behind after with silent | silent
          · exact .inl (by by_cases held : cls.holds c = true <;> simp [ways, held, silent])
          · exact .inr (by by_cases held : head.holds c = true <;> simp [ways, held, silent])
      · cases behind
  | _ => cases apart

theorem Single.either {left right : Rule} (first : left.Single) (second : right.Single)
    (apart : clash left right = true) : (either left right).Single := by
  intro text
  rw [ways]
  rcases ways_of_clash apart text with silent | silent
  · rw [silent, List.nil_append]
    exact second text
  · rw [silent, List.append_nil]
    exact first text

/-- If a repetition stops early, a character of its class comes next. -/
private theorem rounds_one (cls : CharClass) (fuel : Nat) (text : List Char) :
    ∃ rest others, rounds (one cls).ways fuel text = rest :: others ∧
      ∀ other ∈ others, ∃ c later, other = c :: later ∧ cls.holds c = true := by
  induction fuel generalizing text with
  | zero => exact ⟨text, [], rfl, by simp⟩
  | succ fuel ih =>
    cases text with
    | nil => exact ⟨[], [], rfl, by simp⟩
    | cons c later =>
      by_cases held : cls.holds c = true
      · obtain ⟨rest, others, cut, inside⟩ := ih later
        refine ⟨rest, others ++ [c :: later], by simp [rounds, ways, held, cut], ?_⟩
        intro other member
        rcases List.mem_append.mp member with before | same
        · exact inside other before
        · exact ⟨c, later, List.mem_singleton.mp same, held⟩
      · exact ⟨c :: later, [], by simp [rounds, ways, held], by simp⟩

theorem sorted_run (cls : CharClass) : (atLeastOnce (one cls)).Sorted :=
  (single_one cls).sorted.atLeastOnce ((single_one cls).forced _)

theorem forced_run {cls : CharClass} {second : Rule}
    (apart : clash (seq (one cls) done) second = true) : Forced (atLeastOnce (one cls)) second := by
  refine Forced.seq ?_ (single_one cls)
  intro text rest others cut other member
  obtain ⟨first, later, whole, inside⟩ := rounds_one cls text.length text
  rw [ways, whole] at cut
  cases cut
  obtain ⟨c, after, rfl, held⟩ := inside other member
  refine (ways_of_clash apart (c :: after)).resolve_left ?_
  simp [ways, held]

private theorem length_of_matches_letters {cls : Char → CharClass} {word : String}
    (matched : Matches (letters cls word) found) : found.length = word.toList.length := by
  unfold letters at matched
  revert matched
  induction word.toList generalizing found with
  | nil =>
    intro matched
    rw [matches_done_iff.mp matched]
  | cons c rest ih =>
    intro matched
    obtain ⟨left, right, rfl, head, tail⟩ := matches_seq_iff.mp matched
    obtain ⟨d, rfl, _⟩ := matches_one_iff.mp head
    simpa using ih tail

/-- Behind a run and a word the text goes on at the same places, however much stands before the run. -/
private theorem Sorted.longestFirst_run {first : Rule} (sorted : first.Sorted) (cls : CharClass)
    (word : String) : (Rule.seq first (Rule.seq (Rule.atLeastOnce (one cls)) (literal word))).LongestFirst := by
  have ending : (Rule.seq (Rule.atLeastOnce (one cls)) (literal word)).Sorted :=
    (sorted_run cls).seq_sized (single_letters _ _) fun _ => length_of_matches_letters
  refine ending.longestFirst.seq fun text => (sorted text).imp_of_mem ?_
  intro early late first_way second_way order rest here other there shorter
  obtain ⟨front, whole, _⟩ := mem_ways_iff.mp first_way
  obtain ⟨less, same, _⟩ := mem_ways_iff.mp second_way
  obtain ⟨_, ended, found⟩ := mem_ways_iff.mp here
  obtain ⟨run, last, rfl, _, tail⟩ := matches_seq_iff.mp found
  obtain ⟨_, reached, again⟩ := mem_ways_iff.mp there
  obtain ⟨long, final, rfl, head, closing⟩ := matches_seq_iff.mp again
  have size := length_of_matches_letters tail
  have other_size := length_of_matches_letters closing
  obtain ⟨between, wider⟩ : ∃ between, late = between ++ early := by
    rcases List.append_eq_append_iff.mp (whole.symm.trans same) with ⟨more, _, cut⟩ | ⟨more, _, cut⟩
    · rw [cut, List.length_append] at order
      have empty := List.length_eq_zero_iff.mp (by omega : more.length = 0)
      exact ⟨[], by rw [cut, empty]; rfl⟩
    · exact ⟨more, cut⟩
  have sizes := congrArg List.length (wider.symm.trans reached)
  rw [ended] at sizes
  simp only [List.length_append] at sizes
  -- the longer run goes on where the shorter one starts
  have cut := wider.symm.trans reached
  rw [List.append_assoc] at cut
  rcases List.append_eq_append_iff.mp cut with ⟨more, rfl, rest_cut⟩ | ⟨more, rfl, _⟩
  · rw [List.length_append] at sizes
    have held := (matches_run_iff.mp head).2
    refine mem_ways_iff.mpr ⟨more ++ final, by rw [rest_cut, List.append_assoc], .seq ?_ closing⟩
    refine matches_run_iff.mpr ⟨?_, fun c member => held c (List.mem_append_right _ member)⟩
    rintro rfl
    rw [List.length_nil] at sizes
    omega
  · rw [List.length_append] at sizes
    omega

/-- A capital and small letters behind it. -/
def capitalWord : Rule := Rule.seq (one .upper) (atLeastOnce (one .lower))

private theorem sorted_capitalWord :
    capitalWord.Sorted := (sorted_run _).seq ((single_one _).forced _)

private theorem forced_capitalWord {second : Rule}
    (apart : clash (Rule.seq (one .lower) done) second = true) :
    Forced capitalWord second :=
  (forced_run apart).seq (single_one _)

private theorem sorted_camelCase : camelCase.Sorted := by
  have later : (atLeastOnce capitalWord).Sorted :=
    sorted_capitalWord.atLeastOnce (forced_capitalWord (by decide))
  exact later.seq (forced_capitalWord (by decide))

private theorem single_keyword : keyword.Single := by
  refine Single.either (single_letters _ _) ?_ (by decide +kernel)
  refine Single.either (single_letters _ _) ?_ (by decide +kernel)
  refine Single.either (single_letters _ _) ?_ (by decide +kernel)
  exact Single.either (single_letters _ _) (single_letters _ _) (by decide +kernel)

private theorem sorted_kebabCase : kebabCase.Sorted := by
  have tail : (Rule.seq (one (.exactly '-')) (atLeastOnce (one .lower))).Sorted :=
    (sorted_run _).seq ((single_one _).forced _)
  exact tail.seq (forced_run (by decide))

/-- A word and then any number of characters of one class. -/
private theorem sorted_letters_many (cls : Char → CharClass) (word : String) (tail : CharClass) :
    (Rule.seq (letters cls word) (Rule.many (one tail))).Sorted :=
  ((single_one tail).sorted.many ((single_one tail).forced _)).seq ((single_letters _ _).forced _)

private theorem sorted_clientService : clientService.Sorted := by
  have start : (Rule.either (literal "use") (literal "api")).Single :=
    Single.either (single_letters _ _) (single_letters _ _) (by decide)
  have ending : (Rule.seq (atLeastOnce (one .word)) (literal "Service")).Sorted :=
    (sorted_run _).seq_sized (single_letters _ _) fun _ => length_of_matches_letters
  exact ending.seq (start.forced _)

private theorem sorted_hook : hook.Sorted := (sorted_run _).seq ((single_letters _ _).forced _)

theorem longestFirst_rules : ∀ rule ∈ rules, rule.LongestFirst := by
  simp only [rules, List.forall_mem_cons]
  exact ⟨sorted_camelCase.longestFirst, single_keyword.sorted.longestFirst,
    sorted_kebabCase.longestFirst, (sorted_letters_many _ _ _).longestFirst,
    (sorted_letters_many _ _ _).longestFirst, sorted_clientService.longestFirst,
    (sorted_letters_many _ _ _).longestFirst, (sorted_letters_many _ _ _).longestFirst,
    (sorted_letters_many _ _ _).longestFirst, (sorted_run _).longestFirst_run _ _,
    sorted_hook.longestFirst, by simp⟩

end Rule

end DevlogGraph.Pattern
