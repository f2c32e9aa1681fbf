import DevlogGraph.Pattern.Entities
import DevlogGraph.Proofs.Distinct
import DevlogGraph.Proofs.Name
import DevlogGraph.Proofs.Pattern.Rule
import DevlogGraph.Proofs.Text.Fold

/-! The entities of the rules: words without blanks, so that a reported word is its own name, and
each is reported once. -/
namespace DevlogGraph.Pattern

open Text

/-- Only a named letter could make the class hold of a blank. -/
def CharClass.visible : CharClass → Bool
  | exactly letter => !isBlank letter
  | caseless letter => !isBlank (fold letter)
  | _ => true

private theorem isBlank_of_isWord (held : isWord c = true) : isBlank c = false := by
  have separate : apart wordSpans blankSpans = true := by decide +kernel
  exact inSpans_of_apart separate held

private theorem isBlank_of_isNumeral (held : isNumeral c = true) : isBlank c = false := by
  have separate : apart numeralSpans blankSpans = true := by decide +kernel
  exact inSpans_of_apart separate held

private theorem isBlank_of_between {first last : Char} (low : first ≤ c) (high : c ≤ last)
    (separate : apart [(first.toNat, last.toNat)] blankSpans = true) : isBlank c = false := by
  refine inSpans_of_apart separate ?_
  have above : first.toNat ≤ c.toNat := low
  have below : c.toNat ≤ last.toNat := high
  simp [inSpans, below]
  omega

private theorem CharClass.isBlank_of_holds {cls : CharClass} (visible : cls.visible = true)
    (held : cls.holds c = true) : isBlank c = false := by
  cases cls with
  | upper =>
    simp only [holds, Bool.and_eq_true, decide_eq_true_eq] at held
    exact isBlank_of_between held.1 held.2 (by decide)
  | lower =>
    simp only [holds, Bool.and_eq_true, decide_eq_true_eq] at held
    exact isBlank_of_between held.1 held.2 (by decide)
  | digit => exact isBlank_of_isNumeral held
  | word => exact isBlank_of_isWord held
  | wordOrDash =>
    simp only [holds, Bool.or_eq_true, beq_iff_eq] at held
    rcases held with letter | rfl
    · exact isBlank_of_isWord letter
    · decide
  | exactly letter =>
    simp only [holds, beq_iff_eq] at held
    simpa [CharClass.visible, held] using visible
  | caseless letter =>
    simp only [holds, sameFold, beq_iff_eq] at held
    rw [Bool.eq_false_iff]
    intro blank
    rw [fold_of_blank blank] at held
    simp [CharClass.visible, ← held, blank] at visible

namespace Rule

def visible : Rule → Bool
  | never => true
  | done => true
  | one cls => cls.visible
  | seq first second => first.visible && second.visible
  | either left right => left.visible && right.visible
  | many body => body.visible

theorem isBlank_of_matches {rule : Rule} (found : Matches rule word)
    (visible : rule.visible = true) : ∀ c ∈ word, isBlank c = false := by
  induction found with
  | done => simp
  | one held =>
    intro c member
    rw [List.mem_singleton.mp member]
    exact CharClass.isBlank_of_holds visible held
  | seq _ _ ihHead ihTail =>
    rw [Rule.visible, Bool.and_eq_true] at visible
    intro c member
    exact (List.mem_append.mp member).elim (ihHead visible.1 c) (ihTail visible.2 c)
  | left _ ih =>
    rw [Rule.visible, Bool.and_eq_true] at visible
    exact ih visible.1
  | right _ ih =>
    rw [Rule.visible, Bool.and_eq_true] at visible
    exact ih visible.2
  | stop => simp
  | more _ _ ihHead ihTail =>
    intro c member
    exact (List.mem_append.mp member).elim (ihHead visible c) (ihTail visible c)

end Rule

theorem rules_visible : ∀ rule ∈ rules, rule.visible = true := by decide +kernel

/-- Every reported word is in lower case and without blanks. -/
private theorem word_plain (member : word ∈ words text) :
    (∀ c ∈ word, Lowered c) ∧ ∀ c ∈ word, isBlank c = false := by
  rw [words, List.mem_eraseDups, List.mem_flatMap] at member
  obtain ⟨rule, listed, found⟩ := member
  obtain ⟨occurrence, place, kept⟩ := List.mem_filterMap.mp found
  split at kept
  · cases kept
  · cases kept
    refine ⟨fun c inside => lowered_of_mem_lowercase inside, ?_⟩
    intro c inside
    rw [Bool.eq_false_iff]
    intro blank
    have before := mem_of_blank_mem_lowercase inside blank
    rw [Rule.isBlank_of_matches (Rule.matches_of_mem_occurrences place) (rules_visible rule listed)
      c before] at blank
    cases blank

/-- A reported word is its own name. -/
theorem normalName_word (member : word ∈ words text) :
    normalName (String.ofList word) = String.ofList word := by
  obtain ⟨lowered, visible⟩ := word_plain member
  rw [normalName_of_lowered lowered, (trim_eq_self_iff word).mpr (trimmed_of_visible visible)]

theorem entities_names (text : String) :
    (entities text).map (·.name) = (words text.toList).map String.ofList := by
  rw [entities, List.map_map]
  apply List.map_congr_left
  intro word member
  exact normalName_word member

theorem entities_names_nodup (text : String) : ((entities text).map (·.name)).Nodup := by
  rw [entities_names]
  exact (nodup_eraseDups _).map fun first second same => String.ofList_injective same

/-- What is the same for all entities of the rules. -/
theorem entity_stamp (member : entity ∈ entities text) :
    entity.kind = entityKind ∧ entity.confidence = entityConfidence ∧
      entity.source = sourceTag := by
  obtain ⟨word, _, rfl⟩ := List.mem_map.mp member
  refine ⟨rfl, ?_, rfl⟩
  have above : ¬ entityConfidence < 0 := by decide
  have below : ¬ 1 < entityConfidence := by decide
  have inside : clampUnit entityConfidence = entityConfidence := by
    rw [clampUnit, if_neg above, if_neg below]
  exact inside

end DevlogGraph.Pattern
