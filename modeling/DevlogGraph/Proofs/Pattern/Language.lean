import DevlogGraph.Pattern.Entities
import DevlogGraph.Proofs.Pattern.Rule

/-! The words that the entity rules look for, said without the rules: eleven expressions, in the order
in which they report. -/
namespace DevlogGraph.Pattern

open Text

def SmallLetters (text : List Char) : Prop := text ≠ [] ∧ ∀ c ∈ text, 'a' ≤ c ∧ c ≤ 'z'

def Capitalised (text : List Char) : Prop :=
  ∃ c rest, text = c :: rest ∧ ('A' ≤ c ∧ c ≤ 'Z') ∧ SmallLetters rest

/-- Word characters, any number of them. -/
def Wordy (text : List Char) : Prop := ∀ c ∈ text, isWord c = true

def InAnyCase (name : String) (text : List Char) : Prop := text.map fold = name.toList.map fold

/-- `[A-Z][a-z]+(?:[A-Z][a-z]+)+` -/
def CamelCase (word : List Char) : Prop :=
  ∃ parts : List (List Char), 2 ≤ parts.length ∧ (∀ part ∈ parts, Capitalised part) ∧
    parts.flatten = word

/-- `(?i)(modal|hook|endpoint|migration|service)` -/
def Keyword (word : List Char) : Prop :=
  ∃ name ∈ ["modal", "hook", "endpoint", "migration", "service"], InAnyCase name word

/-- `[a-z]+-[a-z]+` -/
def KebabCase (word : List Char) : Prop :=
  ∃ front back, word = front ++ '-' :: back ∧ SmallLetters front ∧ SmallLetters back

/-- `nginx[\w-]*` -/
def WebServer (word : List Char) : Prop :=
  ∃ tail, word = "nginx".toList ++ tail ∧ ∀ c ∈ tail, isWord c = true ∨ c = '-'

/-- `(?i)modal\w*` -/
def ModalName (word : List Char) : Prop :=
  ∃ start tail, word = start ++ tail ∧ InAnyCase "modal" start ∧ Wordy tail

/-- `(use|api)\w+Service` -/
def ClientService (word : List Char) : Prop :=
  ∃ start ∈ ["use", "api"], ∃ middle, word = start.toList ++ (middle ++ "Service".toList) ∧
    middle ≠ [] ∧ Wordy middle

/-- `cloudron\w*`, and likewise for other names. -/
def Beginning (name : String) (word : List Char) : Prop :=
  ∃ tail, word = name.toList ++ tail ∧ Wordy tail

/-- `\d+\w+Modal` -/
def NumberedModal (word : List Char) : Prop :=
  ∃ number middle, word = number ++ (middle ++ "Modal".toList) ∧
    (number ≠ [] ∧ ∀ c ∈ number, isNumeral c = true) ∧ middle ≠ [] ∧ Wordy middle

/-- `use\w+` -/
def Hook (word : List Char) : Prop := ∃ tail, word = "use".toList ++ tail ∧ tail ≠ [] ∧ Wordy tail

def languages : List (List Char → Prop) := [
  CamelCase, Keyword, KebabCase, WebServer, ModalName, ClientService, Beginning "cloudron",
  Beginning "mcp", Beginning "proxy_", NumberedModal, Hook]

namespace Rule

private theorem matches_smallLetters_iff :
    Matches (atLeastOnce (one .lower)) word ↔ SmallLetters word := by
  simp only [matches_run_iff, SmallLetters, CharClass.holds, Bool.and_eq_true, decide_eq_true_eq]

private theorem matches_capitalised_iff :
    Matches (seq (one .upper) (atLeastOnce (one .lower))) word ↔ Capitalised word := by
  simp only [matches_seq_iff, matches_one_iff, matches_smallLetters_iff, Capitalised,
    CharClass.holds, Bool.and_eq_true, decide_eq_true_eq]
  constructor
  · rintro ⟨_, rest, rfl, ⟨c, rfl, capital⟩, small⟩
    exact ⟨c, rest, rfl, capital, small⟩
  · rintro ⟨c, rest, rfl, capital, small⟩
    exact ⟨[c], rest, rfl, ⟨c, rfl, capital⟩, small⟩

theorem matches_camelCase_iff : Matches camelCase word ↔ CamelCase word := by
  have parts_iff : Matches camelCase word ↔ ∃ left right, word = left ++ right ∧
      Capitalised left ∧ ∃ parts : List (List Char), parts ≠ [] ∧
        (∀ part ∈ parts, Capitalised part) ∧ parts.flatten = right := by
    simp only [← matches_capitalised_iff, ← matches_atLeastOnce_iff, ← matches_seq_iff]
    rfl
  rw [parts_iff]
  constructor
  · rintro ⟨first, _, rfl, capital, parts, some_part, others, rfl⟩
    refine ⟨first :: parts, ?_, List.forall_mem_cons.mpr ⟨capital, others⟩, List.flatten_cons⟩
    rw [List.length_cons]
    exact Nat.succ_le_succ (List.length_pos_iff.mpr some_part)
  · rintro ⟨parts, several, capitals, rfl⟩
    match parts with
    | first :: second :: rest =>
      obtain ⟨capital, others⟩ := List.forall_mem_cons.mp capitals
      exact ⟨first, (second :: rest).flatten, List.flatten_cons, capital, second :: rest,
        List.cons_ne_nil second rest, others, rfl⟩

theorem matches_keyword_iff : Matches keyword word ↔ Keyword word := by
  simp [keyword, Keyword, InAnyCase, matches_either_iff, matches_caselessLiteral_iff]

theorem matches_kebabCase_iff : Matches kebabCase word ↔ KebabCase word := by
  simp only [kebabCase, KebabCase, matches_seq_iff, matches_one_iff, matches_smallLetters_iff,
    CharClass.holds, beq_iff_eq]
  constructor
  · rintro ⟨front, _, rfl, small, _, back, rfl, ⟨_, rfl, rfl⟩, others⟩
    exact ⟨front, back, rfl, small, others⟩
  · rintro ⟨front, back, rfl, small, others⟩
    exact ⟨front, '-' :: back, rfl, small, ['-'], back, rfl, ⟨'-', rfl, rfl⟩, others⟩

private theorem matches_literal_seq_iff : Matches (seq (literal name) second) word ↔
    ∃ tail, word = name.toList ++ tail ∧ Matches second tail := by
  simp only [matches_seq_iff, matches_literal_iff]
  constructor
  · rintro ⟨_, tail, rfl, rfl, matched⟩
    exact ⟨tail, rfl, matched⟩
  · rintro ⟨tail, rfl, matched⟩
    exact ⟨_, tail, rfl, rfl, matched⟩

private theorem matches_seq_literal_iff : Matches (seq first (literal name)) word ↔
    ∃ front, word = front ++ name.toList ∧ Matches first front := by
  simp only [matches_seq_iff, matches_literal_iff]
  constructor
  · rintro ⟨front, _, rfl, matched, rfl⟩
    exact ⟨front, rfl, matched⟩
  · rintro ⟨front, rfl, matched⟩
    exact ⟨front, _, rfl, matched, rfl⟩

private theorem matches_wordy_iff : Matches (atLeastOnce (one .word)) word ↔
    word ≠ [] ∧ Wordy word :=
  matches_run_iff

theorem matches_webServer_iff : Matches webServer word ↔ WebServer word := by
  simp only [webServer, WebServer, matches_literal_seq_iff, matches_many_one_iff, CharClass.holds,
    Bool.or_eq_true, beq_iff_eq]

theorem matches_modal_iff : Matches modal word ↔ ModalName word := by
  have parts : Matches modal word ↔ ∃ start tail, word = start ++ tail ∧
      Matches (caselessLiteral "modal") start ∧ Matches (many (one .word)) tail :=
    matches_seq_iff
  rw [parts]
  simp only [matches_caselessLiteral_iff, matches_many_one_iff]
  rfl

theorem matches_clientService_iff : Matches clientService word ↔ ClientService word := by
  rw [clientService, matches_seq_iff]
  simp only [ClientService, matches_either_iff, matches_literal_iff, matches_seq_literal_iff,
    matches_wordy_iff]
  constructor
  · rintro ⟨start, _, rfl, which, middle, rfl, some_middle, wordy⟩
    rcases which with rfl | rfl
    · exact ⟨"use", by simp, middle, rfl, some_middle, wordy⟩
    · exact ⟨"api", by simp, middle, rfl, some_middle, wordy⟩
  · rintro ⟨start, which, middle, rfl, some_middle, wordy⟩
    have spelled : start.toList = "use".toList ∨ start.toList = "api".toList := by
      rcases List.mem_cons.mp which with rfl | other
      · exact .inl rfl
      · exact .inr (congrArg String.toList (List.mem_singleton.mp other))
    exact ⟨start.toList, _, rfl, spelled, middle, rfl, some_middle, wordy⟩

theorem matches_beginning_iff :
    Matches (seq (literal name) (many (one .word))) word ↔ Beginning name word := by
  rw [matches_literal_seq_iff]
  simp only [matches_many_one_iff]
  rfl

theorem matches_numberedModal_iff : Matches numberedModal word ↔ NumberedModal word := by
  rw [numberedModal, matches_seq_iff]
  simp only [matches_seq_literal_iff, matches_run_iff, NumberedModal]
  constructor
  · rintro ⟨number, _, rfl, digits, middle, rfl, wordy⟩
    exact ⟨number, middle, rfl, digits, wordy⟩
  · rintro ⟨number, middle, rfl, digits, wordy⟩
    exact ⟨number, _, rfl, digits, middle, rfl, wordy⟩

theorem matches_hook_iff : Matches hook word ↔ Hook word := by
  rw [hook, matches_literal_seq_iff]
  simp only [matches_wordy_iff, Hook]

end Rule

/-- The rules are these expressions, in this order. -/
theorem rules_languages : rules.map Rule.Matches = languages := by
  have same {rule : Rule} {Word : List Char → Prop}
      (iff : ∀ word, Rule.Matches rule word ↔ Word word) : Rule.Matches rule = Word :=
    funext fun word => propext (iff word)
  have beginning (name : String) :
      Rule.Matches (.seq (.literal name) (.many (.one .word))) = Beginning name :=
    same fun _ => Rule.matches_beginning_iff
  have cloud : Rule.Matches cloudHost = Beginning "cloudron" := beginning _
  have tool : Rule.Matches toolServer = Beginning "mcp" := beginning _
  have proxy : Rule.Matches proxySetting = Beginning "proxy_" := beginning _
  simp only [rules, languages, List.map_cons, List.map_nil]
  rw [same fun _ => Rule.matches_camelCase_iff, same fun _ => Rule.matches_keyword_iff,
    same fun _ => Rule.matches_kebabCase_iff, same fun _ => Rule.matches_webServer_iff,
    same fun _ => Rule.matches_modal_iff, same fun _ => Rule.matches_clientService_iff,
    cloud, tool, proxy, same fun _ => Rule.matches_numberedModal_iff,
    same fun _ => Rule.matches_hook_iff]

end DevlogGraph.Pattern
