import Mathlib.Data.List.Forall2
import DevlogGraph.Proofs.Pattern.Backtracking
import DevlogGraph.Proofs.Pattern.Entities
import DevlogGraph.Proofs.Pattern.Language

/-! The report of the entity rules: the lower-case form of each word they find that is long enough,
once, by rule and place. What the rules look for is said by the eleven languages. -/
namespace DevlogGraph.Pattern

open Text

/-- Where a word is found: by which of the rules, and from which character on. -/
structure Place where
  rule : Nat
  start : Nat

/-- Rules come in their order, and the occurrences of one rule from left to right. -/
def Place.before (place other : Place) : Prop :=
  place.rule < other.rule ∨ place.rule = other.rule ∧ place.start < other.start

/-- What is found by the rules, one after another, has this word to report at this place. -/
def FoundAt (scans : List (List Occurrence)) (word : List Char) (place : Place) : Prop :=
  ∃ occurrences, scans[place.rule]? = some occurrences ∧ ∃ occurrence ∈ occurrences,
    occurrence.start = place.start ∧ 4 ≤ occurrence.text.length ∧ lowercase occurrence.text = word

/-- What the rules report of a text: `scans` are the words that are found of each of the languages. -/
structure Reports (text : String) (scans : List (List Occurrence)) (found : List Entity) : Prop where
  /-- The longest word is found wherever one starts, and none is missed. -/
  scanned : List.Forall₂ (fun Word occurrences => Scan Word text.toList 0 occurrences) languages scans
  names : ∀ name, name ∈ found.map (·.name) ↔ ∃ place, FoundAt scans name.toList place
  /-- A word found before another is reported before it. -/
  ordered : found.Pairwise fun entity other => ∃ place, FoundAt scans entity.name.toList place ∧
    ∀ later, FoundAt scans other.name.toList later → place.before later
  distinct : (found.map (·.name)).Nodup
  complete : ∀ occurrences ∈ scans, ∀ occurrence ∈ occurrences, 4 ≤ occurrence.text.length →
    ∃ entity ∈ found, entity.name.toList = lowercase occurrence.text
  lowered : ∀ entity ∈ found, ∃ part, part <:+: text.toList ∧ entity.name.toList = lowercase part
  long : ∀ entity ∈ found, 4 ≤ entity.name.length
  normal : ∀ entity ∈ found, normalName entity.name = entity.name
  stamped : ∀ entity ∈ found, entity.kind = "component" ∧ entity.confidence = 0.8 ∧
    entity.source = "pattern"

/-- What each of the rules finds. -/
def ruleScans (text : List Char) : List (List Occurrence) := rules.map (·.occurrences text)

/-- Every rule needs a character. -/
private theorem rules_proper : ∀ rule ∈ rules, ¬ Rule.Matches rule [] := by
  have checked : rules.all (fun rule => !rule.acceptsEmpty) = true := by decide +kernel
  intro rule listed matched
  have proper := List.all_eq_true.mp checked rule listed
  rw [(Rule.acceptsEmpty_iff rule).mpr matched] at proper
  cases proper

theorem ruleScans_scan (text : List Char) :
    List.Forall₂ (fun Word occurrences => Scan Word text 0 occurrences) languages (ruleScans text) := by
  rw [← rules_languages, ruleScans, List.forall₂_map_left_iff, List.forall₂_map_right_iff,
    List.forall₂_same]
  exact fun rule listed => Rule.scan_occurrences (rules_proper rule listed) text

/-- The reported words of one rule with their places. -/
private def placedWordsOf (text : List Char) (rule : Rule) (number : Nat) :
    List (Place × List Char) :=
  (rule.occurrences text).filterMap fun occurrence =>
    if occurrence.text.length ≤ longestIgnored then none
    else some (⟨number, occurrence.start⟩, lowercase occurrence.text)

private def placedWords (text : List Char) : List (Place × List Char) :=
  rules.zipIdx.flatMap fun (rule, number) => placedWordsOf text rule number

private theorem mem_placedWordsOf_iff : (place, word) ∈ placedWordsOf text rule number ↔
    place.rule = number ∧ ∃ occurrence ∈ rule.occurrences text, occurrence.start = place.start ∧
      4 ≤ occurrence.text.length ∧ lowercase occurrence.text = word := by
  rw [placedWordsOf, List.mem_filterMap]
  constructor
  · rintro ⟨occurrence, member, reported⟩
    split at reported
    · cases reported
    · rename_i long
      cases reported
      exact ⟨rfl, occurrence, member, rfl, Nat.lt_of_not_le long, rfl⟩
  · rintro ⟨rfl, occurrence, member, start, long, rfl⟩
    have reported : ¬ occurrence.text.length ≤ longestIgnored := Nat.not_le_of_lt long
    exact ⟨occurrence, member, by rw [if_neg reported, start]⟩

private theorem mem_placedWords_iff :
    (place, word) ∈ placedWords text ↔ FoundAt (ruleScans text) word place := by
  simp only [placedWords, List.mem_flatMap, Prod.exists, List.mem_zipIdx_iff_getElem?,
    mem_placedWordsOf_iff, FoundAt, ruleScans, List.getElem?_map, Option.map_eq_some_iff]
  constructor
  · rintro ⟨rule, _, listed, rfl, found⟩
    exact ⟨_, ⟨rule, listed, rfl⟩, found⟩
  · rintro ⟨_, ⟨rule, listed, rfl⟩, found⟩
    exact ⟨rule, place.rule, listed, rfl, found⟩

private theorem placedWords_words (text : List Char) :
    (placedWords text).map (·.2) = rules.flatMap (wordsOf text) := by
  have one_rule (rule : Rule) (number : Nat) :
      (placedWordsOf text rule number).map (·.2) = wordsOf text rule := by
    rw [placedWordsOf, wordsOf, List.map_filterMap]
    refine List.filterMap_congr fun occurrence _ => ?_
    split <;> rfl
  rw [placedWords, List.map_flatMap]
  simp only [one_rule]
  conv_rhs => rw [← List.zipIdx_map_fst 0 rules, List.flatMap_map]

private theorem placedWords_ordered (text : List Char) :
    (placedWords text).Pairwise fun early late => early.1.before late.1 := by
  rw [placedWords, List.pairwise_flatMap]
  constructor
  · rintro ⟨rule, number⟩ member
    have proper := rules_proper rule (List.fst_mem_of_mem_zipIdx member)
    refine ((Rule.scan_occurrences proper text).increasing proper).filterMap _ ?_
    intro earlier later apart early kept late also_kept
    split at kept
    · cases kept
    · split at also_kept
      · cases also_kept
      · cases kept
        cases also_kept
        exact .inr ⟨rfl, apart⟩
  · have numbered : rules.zipIdx.Pairwise fun one other => one.2 < other.2 := by
      rw [← List.pairwise_map (f := Prod.snd), List.zipIdx_map_snd]
      exact List.pairwise_lt_range'
    refine numbered.imp ?_
    rintro ⟨rule, number⟩ ⟨other, next⟩ apart ⟨place, word⟩ early ⟨later, another⟩ late
    obtain ⟨rfl, _⟩ := mem_placedWordsOf_iff.mp early
    obtain ⟨rfl, _⟩ := mem_placedWordsOf_iff.mp late
    exact .inl apart

theorem mem_words_iff : word ∈ words text ↔ ∃ place, FoundAt (ruleScans text) word place := by
  simp only [words, List.mem_eraseDups, ← placedWords_words, List.mem_map, Prod.exists,
    mem_placedWords_iff, exists_eq_right]

/-- Words are reported in the order of the places where they are first found. -/
theorem words_ordered (text : List Char) : (words text).Pairwise fun word other =>
    ∃ place, FoundAt (ruleScans text) word place ∧
      ∀ later, FoundAt (ruleScans text) other later → place.before later := by
  have order := pairwise_eraseDups (placedWords_ordered text)
  rw [placedWords_words] at order
  simp only [mem_placedWords_iff] at order
  exact order

private theorem mem_names_iff (text : String) : name ∈ (entities text).map (·.name) ↔
    ∃ place, FoundAt (ruleScans text.toList) name.toList place := by
  rw [entities_names, List.mem_map, ← mem_words_iff]
  constructor
  · rintro ⟨word, member, rfl⟩
    rwa [String.toList_ofList]
  · intro member
    exact ⟨name.toList, member, String.ofList_toList⟩

/-- What is found somewhere is the lower-case form of a part of the text, and not shorter. -/
private theorem FoundAt.part (found : FoundAt (ruleScans text) word place) :
    ∃ part, part <:+: text ∧ 4 ≤ part.length ∧ word = lowercase part := by
  obtain ⟨_, listed, occurrence, member, _, long, rfl⟩ := found
  obtain ⟨rule, inside, rfl⟩ := List.mem_map.mp (List.mem_of_getElem? listed)
  have placed := (Rule.scan_occurrences (rules_proper rule inside) text).placed occurrence member
  exact ⟨occurrence.text, placed.isInfix.trans (List.drop_suffix _ _).isInfix, long, rfl⟩

/-- The entities are what is to be reported of the words of the eleven languages. A backtracking search
by the rules of these languages stops at the same places. -/
theorem entities_report (text : String) :
    Reports text (ruleScans text.toList) (entities text) ∧ rules.map Rule.Matches = languages ∧
    ∀ rule ∈ rules, ∀ occurrence ∈ rule.occurrences text.toList,
      (rule.ways (text.toList.drop occurrence.start)).head? =
        some (text.toList.drop occurrence.stop) := by
  refine ⟨?report, rules_languages, ?preferred⟩
  case preferred =>
    intro rule listed occurrence member
    have scan := Rule.scan_occurrences (rules_proper rule listed) text.toList
    rw [(Rule.longestFirst_rules rule listed).head_ways, Rule.reach_of_scan scan member,
      Option.map_some, List.drop_drop, Occurrence.stop]
  case report =>
    refine ⟨ruleScans_scan text.toList, fun _ => mem_names_iff text, ?ordered,
      entities_names_nodup text, ?complete, ?lowered, ?long, ?normal, fun _ => entity_stamp⟩
    case ordered =>
      have named : ((entities text).map (·.name)).Pairwise fun name other => ∃ place,
          FoundAt (ruleScans text.toList) name.toList place ∧
            ∀ later, FoundAt (ruleScans text.toList) other.toList later → place.before later := by
        rw [entities_names, List.pairwise_map]
        simpa only [String.toList_ofList] using words_ordered text.toList
      exact List.pairwise_map.mp named
    case complete =>
      intro occurrences listed occurrence member long
      obtain ⟨number, numbered⟩ := List.getElem?_of_mem listed
      have found : FoundAt (ruleScans text.toList)
          (String.ofList (lowercase occurrence.text)).toList ⟨number, occurrence.start⟩ :=
        ⟨occurrences, numbered, occurrence, member, rfl, long, String.toList_ofList.symm⟩
      obtain ⟨entity, reported, name⟩ := List.mem_map.mp ((mem_names_iff text).mpr ⟨_, found⟩)
      exact ⟨entity, reported, by rw [name, String.toList_ofList]⟩
    case lowered =>
      intro entity member
      obtain ⟨_, found⟩ := (mem_names_iff text).mp (List.mem_map_of_mem member)
      obtain ⟨part, inside, _, word⟩ := found.part
      exact ⟨part, inside, word⟩
    case long =>
      intro entity member
      obtain ⟨_, found⟩ := (mem_names_iff text).mp (List.mem_map_of_mem member)
      obtain ⟨part, _, long, word⟩ := found.part
      rw [← String.length_toList, word]
      exact Nat.le_trans long (length_le_lowercase part)
    case normal =>
      intro entity member
      obtain ⟨word, _, rfl⟩ := List.mem_map.mp member
      exact normalName_normalName _

/-- The first rule reports first although its word stands behind another. A word that is found again,
or by another rule, is reported once, and one of three characters is not. -/
theorem entities_report_repeated_and_short :
    let text := "useSortable for ManageColumnsModal, a-b and useSortable"
    (entities text).map (·.name) = ["managecolumnsmodal", "modal", "usesortable"] ∧
    Reports text (ruleScans text.toList) (entities text) ∧
    FoundAt (ruleScans text.toList) "usesortable".toList ⟨10, 0⟩ ∧
    FoundAt (ruleScans text.toList) "usesortable".toList ⟨10, 44⟩ ∧
    (⟨36, ['a', '-', 'b']⟩ : Occurrence) ∈ kebabCase.occurrences text.toList ∧
    ¬ ∃ place, FoundAt (ruleScans text.toList) ['a', '-', 'b'] place := by
  intro text
  obtain ⟨report, _, _⟩ := entities_report text
  have names : (entities text).map (·.name) = ["managecolumnsmodal", "modal", "usesortable"] := by
    rw [entities_names]
    decide +kernel
  have hooks : (ruleScans text.toList)[10]? =
      some [⟨0, "useSortable".toList⟩, ⟨44, "useSortable".toList⟩] := by
    decide +kernel
  have lowered : lowercase "useSortable".toList = "usesortable".toList := by decide +kernel
  have short : (⟨36, ['a', '-', 'b']⟩ : Occurrence) ∈ kebabCase.occurrences text.toList := by
    decide +kernel
  refine ⟨names, report, ⟨_, hooks, _, List.mem_cons_self, rfl, by decide, lowered⟩,
    ⟨_, hooks, _, List.mem_cons_of_mem _ List.mem_cons_self, rfl, by decide, lowered⟩, short, ?_⟩
  intro found
  have reported := (report.names "a-b").mpr found
  rw [names] at reported
  revert reported
  decide

end DevlogGraph.Pattern
