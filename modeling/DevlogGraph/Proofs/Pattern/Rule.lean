import DevlogGraph.Pattern.Rule

/-! Rules and their words: what is left of a rule after a character has the words that go on from
there, and a search finds nothing but words of its rule. -/
namespace DevlogGraph.Pattern.Rule

theorem not_matches_never : ¬ Matches never word := nofun

theorem matches_done_iff : Matches done word ↔ word = [] := by
  constructor
  · rintro ⟨⟩
    rfl
  · rintro rfl
    exact .done

theorem matches_one_iff : Matches (one cls) word ↔ ∃ c, word = [c] ∧ cls.holds c = true := by
  constructor
  · rintro ⟨⟩
    exact ⟨_, rfl, ‹_›⟩
  · rintro ⟨c, rfl, held⟩
    exact .one held

theorem matches_seq_iff : Matches (seq first second) word ↔
    ∃ left right, word = left ++ right ∧ Matches first left ∧ Matches second right := by
  constructor
  · rintro ⟨⟩
    exact ⟨_, _, rfl, ‹_›, ‹_›⟩
  · rintro ⟨left, right, rfl, head, tail⟩
    exact .seq head tail

theorem matches_either_iff : Matches (either left right) word ↔
    Matches left word ∨ Matches right word := by
  constructor
  · intro found
    cases found with
    | left found => exact .inl found
    | right found => exact .inr found
  · rintro (found | found)
    · exact .left found
    · exact .right found

/-- A repetition that does not stop at once has a first round that is not empty. -/
theorem matches_many_cons_iff : Matches (many body) (c :: word) ↔
    ∃ first rest, word = first ++ rest ∧ Matches body (c :: first) ∧ Matches (many body) rest := by
  constructor
  · intro found
    generalize whole : c :: word = text at found
    generalize repetition : many body = rule at found
    induction found with
    | @more body first rest head tail _ ih =>
      cases repetition
      cases first with
      | nil => exact ih whole rfl
      | cons d later =>
        rw [List.cons_append, List.cons.injEq] at whole
        obtain ⟨rfl, rfl⟩ := whole
        exact ⟨later, rest, rfl, head, tail⟩
    | stop => cases whole
    | _ => cases repetition
  · rintro ⟨first, rest, rfl, head, tail⟩
    exact .more head tail

/-- A repetition has the words that are put together of words of what is repeated. -/
theorem matches_many_iff : Matches (many body) word ↔
    ∃ parts : List (List Char), (∀ part ∈ parts, Matches body part) ∧ parts.flatten = word := by
  constructor
  · intro found
    generalize repetition : many body = rule at found
    induction found with
    | @more body first rest head tail _ ih =>
      cases repetition
      obtain ⟨parts, matched, rfl⟩ := ih rfl
      exact ⟨first :: parts, List.forall_mem_cons.mpr ⟨head, matched⟩, List.flatten_cons⟩
    | stop => exact ⟨[], by simp, rfl⟩
    | _ => cases repetition
  · rintro ⟨parts, matched, rfl⟩
    induction parts with
    | nil => exact .stop
    | cons first rest ih =>
      obtain ⟨head, others⟩ := List.forall_mem_cons.mp matched
      exact .more head (ih others)

theorem matches_atLeastOnce_iff : Matches (atLeastOnce body) word ↔
    ∃ parts : List (List Char), parts ≠ [] ∧ (∀ part ∈ parts, Matches body part) ∧
      parts.flatten = word := by
  rw [atLeastOnce, matches_seq_iff]
  simp only [matches_many_iff]
  constructor
  · rintro ⟨first, _, rfl, head, parts, matched, rfl⟩
    exact ⟨first :: parts, List.cons_ne_nil first parts,
      List.forall_mem_cons.mpr ⟨head, matched⟩, List.flatten_cons⟩
  · rintro ⟨parts, some_part, matched, rfl⟩
    cases parts with
    | nil => exact absurd rfl some_part
    | cons first rest =>
      obtain ⟨head, others⟩ := List.forall_mem_cons.mp matched
      exact ⟨first, rest.flatten, List.flatten_cons, head, rest, others, rfl⟩

theorem matches_many_one_iff : Matches (many (one cls)) word ↔ ∀ c ∈ word, cls.holds c = true := by
  induction word with
  | nil => simp [Matches.stop]
  | cons c rest ih =>
    simp only [matches_many_cons_iff, matches_one_iff, List.cons.injEq, List.forall_mem_cons, ← ih]
    constructor
    · rintro ⟨first, later, rfl, ⟨d, ⟨rfl, rfl⟩, held⟩, others⟩
      exact ⟨held, others⟩
    · rintro ⟨held, others⟩
      exact ⟨[], rest, rfl, ⟨c, ⟨rfl, rfl⟩, held⟩, others⟩

theorem matches_run_iff : Matches (atLeastOnce (one cls)) word ↔
    word ≠ [] ∧ ∀ c ∈ word, cls.holds c = true := by
  simp only [atLeastOnce, matches_seq_iff, matches_one_iff, matches_many_one_iff]
  constructor
  · rintro ⟨left, right, rfl, ⟨c, rfl, held⟩, others⟩
    exact ⟨by simp, List.forall_mem_cons.mpr ⟨held, others⟩⟩
  · rintro ⟨some_word, held⟩
    cases word with
    | nil => exact absurd rfl some_word
    | cons c rest =>
      obtain ⟨here, others⟩ := List.forall_mem_cons.mp held
      exact ⟨[c], rest, rfl, ⟨c, rfl, here⟩, others⟩

/-- Where a class holds of a letter's variants, the word is spelled in variants of its letters. -/
theorem matches_letters_iff {cls : Char → CharClass} {variant : Char → κ}
    (same : ∀ letter c, (cls letter).holds c = true ↔ variant c = variant letter) (name : String) :
    Matches (letters cls name) word ↔ word.map variant = name.toList.map variant := by
  unfold letters
  induction name.toList generalizing word with
  | nil => simp [matches_done_iff]
  | cons letter rest ih =>
    simp only [List.foldr_cons, matches_seq_iff, matches_one_iff, ih, same]
    constructor
    · rintro ⟨_, later, rfl, ⟨c, rfl, held⟩, others⟩
      exact List.cons_eq_cons.mpr ⟨held, others⟩
    · intro spelled
      obtain ⟨c, later, rfl, held, others⟩ := List.map_eq_cons_iff.mp spelled
      exact ⟨[c], later, rfl, ⟨c, rfl, held⟩, others⟩

theorem matches_literal_iff : Matches (literal name) word ↔ word = name.toList := by
  have same (letter c : Char) : (CharClass.exactly letter).holds c = true ↔ id c = id letter :=
    beq_iff_eq
  rw [literal, matches_letters_iff same, List.map_id, List.map_id]

theorem matches_caselessLiteral_iff : Matches (caselessLiteral name) word ↔
    word.map Text.fold = name.toList.map Text.fold := by
  refine matches_letters_iff (fun letter c => ?_) name
  rw [CharClass.holds, Text.sameFold, beq_iff_eq]

theorem acceptsEmpty_iff (rule : Rule) : rule.acceptsEmpty = true ↔ Matches rule [] := by
  induction rule with
  | never => simp [acceptsEmpty, not_matches_never]
  | done => simp [acceptsEmpty, matches_done_iff]
  | one cls => simp [acceptsEmpty, matches_one_iff]
  | seq first second ihFirst ihSecond =>
    rw [acceptsEmpty, Bool.and_eq_true, ihFirst, ihSecond, matches_seq_iff]
    constructor
    · rintro ⟨head, tail⟩
      exact ⟨[], [], rfl, head, tail⟩
    · rintro ⟨left, right, cut, head, tail⟩
      obtain ⟨rfl, rfl⟩ := List.append_eq_nil_iff.mp cut.symm
      exact ⟨head, tail⟩
  | either left right ihLeft ihRight =>
    rw [acceptsEmpty, Bool.or_eq_true, ihLeft, ihRight, matches_either_iff]
  | many body _ => simp [acceptsEmpty, Matches.stop]

theorem matches_followedBy_iff : Matches (followedBy first second) word ↔
    Matches (seq first second) word := by
  unfold followedBy
  split
  · simp [matches_seq_iff, not_matches_never]
  · rw [matches_seq_iff]
    constructor
    · intro found
      exact ⟨[], word, rfl, .done, found⟩
    · rintro ⟨left, right, rfl, head, tail⟩
      rwa [matches_done_iff.mp head]
  · rfl

private theorem matches_of_offers {rule : Rule} (offered : offers candidate rule = true)
    (found : Matches candidate word) : Matches rule word := by
  induction rule with
  | either left right ihLeft ihRight =>
    rw [offers, Bool.or_eq_true] at offered
    rcases offered with here | there
    · exact .left (ihLeft here)
    · exact .right (ihRight there)
  | _ =>
    simp only [offers, beq_iff_eq] at offered
    rwa [offered]

theorem matches_orElse_iff : Matches (orElse left right) word ↔
    Matches left word ∨ Matches right word := by
  unfold orElse
  split
  · rename_i hopeless
    simp [hopeless, not_matches_never]
  · split
    · rename_i hopeless
      simp [hopeless, not_matches_never]
    · split
      · rename_i offered
        exact ⟨.inl, fun found => found.elim id (matches_of_offers offered)⟩
      · exact matches_either_iff

/-- The words of what is left after a character are the words of the rule that start with it. -/
theorem matches_after_iff (c : Char) (rule : Rule) :
    Matches (rule.after c) word ↔ Matches rule (c :: word) := by
  induction rule generalizing word with
  | never => simp [after, not_matches_never]
  | done => simp [after, not_matches_never, matches_done_iff]
  | one cls =>
    by_cases held : cls.holds c = true
    · rw [after, if_pos held, matches_done_iff, matches_one_iff]
      constructor
      · rintro rfl
        exact ⟨c, rfl, held⟩
      · rintro ⟨_, same, _⟩
        exact (List.cons.inj same).2
    · simp [after, held, not_matches_never, matches_one_iff]
  | seq first second ihFirst ihSecond =>
    have passed : Matches (followedBy (first.after c) second) word ↔
        ∃ left right, word = left ++ right ∧ Matches first (c :: left) ∧ Matches second right := by
      rw [matches_followedBy_iff, matches_seq_iff]
      simp only [ihFirst]
    have whole : Matches (seq first second) (c :: word) ↔
        (Matches first [] ∧ Matches second (c :: word)) ∨
          ∃ left right, word = left ++ right ∧ Matches first (c :: left) ∧
            Matches second right := by
      rw [matches_seq_iff]
      constructor
      · rintro ⟨left, right, cut, head, tail⟩
        cases left with
        | nil => exact .inl ⟨head, cut ▸ tail⟩
        | cons d later =>
          rw [List.cons_append, List.cons.injEq] at cut
          obtain ⟨rfl, rfl⟩ := cut
          exact .inr ⟨later, right, rfl, head, tail⟩
      · rintro (⟨head, tail⟩ | ⟨left, right, rfl, head, tail⟩)
        · exact ⟨[], c :: word, rfl, head, tail⟩
        · exact ⟨c :: left, right, rfl, head, tail⟩
    rw [after, whole, ← acceptsEmpty_iff]
    split
    · rename_i passable
      rw [matches_orElse_iff, passed, ihSecond, or_comm]
      simp [passable]
    · rename_i blocked
      rw [passed]
      simp [blocked]
  | either left right ihLeft ihRight =>
    rw [after, matches_orElse_iff, ihLeft, ihRight, matches_either_iff]
  | many body ih =>
    rw [after, matches_followedBy_iff, matches_seq_iff, matches_many_cons_iff]
    simp only [ih]

/-- What a rule reaches is one of its words. -/
theorem reach_matches {rule : Rule} (reached : rule.reach text = some length) :
    length ≤ text.length ∧ Matches rule (text.take length) := by
  induction text generalizing rule length with
  | nil =>
    unfold reach at reached
    split at reached
    · rename_i empty
      cases reached
      exact ⟨Nat.le_refl _, (acceptsEmpty_iff rule).mp empty⟩
    · cases reached
  | cons c rest ih =>
    unfold reach at reached
    split at reached
    · cases reached
    · split at reached
      · rename_i more found
        cases reached
        obtain ⟨bound, word⟩ := ih found
        exact ⟨Nat.succ_le_succ bound, (matches_after_iff c rule).mp word⟩
      · split at reached
        · rename_i empty
          cases reached
          exact ⟨Nat.zero_le _, (acceptsEmpty_iff rule).mp empty⟩
        · cases reached

/-- Every stretch that a search finds is a word of the rule. -/
theorem matches_of_mem_occurrencesFrom {rule : Rule}
    (member : occurrence ∈ rule.occurrencesFrom start skip text) :
    Matches rule occurrence.text := by
  induction text generalizing start skip with
  | nil => cases skip <;> cases member
  | cons c rest ih =>
    cases skip with
    | succ skip => exact ih member
    | zero =>
      unfold occurrencesFrom at member
      split at member
      · rename_i more reached
        rcases List.mem_cons.mp member with rfl | later
        · exact (reach_matches reached).2
        · exact ih later
      · exact ih member

theorem matches_of_mem_occurrences {rule : Rule} (member : occurrence ∈ rule.occurrences text) :
    Matches rule occurrence.text :=
  matches_of_mem_occurrencesFrom member

end DevlogGraph.Pattern.Rule
