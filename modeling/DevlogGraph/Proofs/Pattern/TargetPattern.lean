import DevlogGraph.Proofs.Pattern.Edge
import DevlogGraph.Proofs.Pattern.Expression

/-! The last part of the expression for relationship lines: the name behind the arrow, its kind and
the end of the line. A name with something visible in it is split from its kind as the reader of lines
does; else it is blank. -/
namespace DevlogGraph.Pattern

open Text Expression

def charPattern (mark : Char) : Expression := one (· == mark)

/-- `\s*` -/
def marginPattern : Expression := many true isBlank

/-- `\s+` -/
def gapPattern : Expression := several true isBlank

/-- `(.+?)`, where a dot is any character but the line feed. -/
def wordPattern (index : Nat) : Expression := group index (several false (· != '\n'))

/-- `\s+\(([^)]*)\)` -/
def kindPattern : Expression :=
  both gapPattern (both (charPattern '(') (both (group 3 (many true (· != ')'))) (charPattern ')')))

/-- `(?:\s+\(([^)]*)\))?\s*$` -/
def closingPattern : Expression := both (maybe kindPattern) marginPattern

def targetPattern : Expression := both (wordPattern 2) closingPattern

theorem trimStart_eq_nil_iff {text : List Char} : trimStart text = [] ↔ Blanks text := by
  constructor
  · intro empty
    obtain ⟨front, blank, split⟩ := trimStart_split text
    rw [empty, List.append_nil] at split
    rw [split]
    exact blank
  · intro blank
    have trimmed := trimStart_append_blank blank []
    rwa [List.append_nil] at trimmed

theorem trimEnd_ne_nil {text : List Char} (nonempty : text ≠ [])
    (visible : text.head?.any isBlank = false) : trimEnd text ≠ [] := by
  intro empty
  obtain ⟨trail, blank, whole⟩ := trimEnd_split text
  rw [empty, List.nil_append] at whole
  rw [← trimStart_of_head visible, whole] at nonempty
  exact nonempty (trimStart_eq_nil_iff.mpr blank)

/-- What the groups hold after a name that was split from its kind. -/
def targetGroups (parts : List Char × Option (List Char)) : Groups :=
  (2, parts.1) :: (parts.2.map (3, ·)).toList

theorem full_char_eq_some_iff {later : Expression} :
    full (both (charPattern mark) later) text = some groups ↔
    ∃ rest, text = mark :: rest ∧ full later rest = some groups := by
  cases text with
  | nil => simp [charPattern, full_one_nil]
  | cons c rest =>
    rw [charPattern, full_one]
    by_cases same : c = mark <;> simp [same]

theorem full_margin_eq_some_iff :
    full marginPattern text = some groups ↔ Blanks text ∧ groups = [] := by
  have whole : full marginPattern text = if (trimStart text).isEmpty then some [] else none :=
    runMany_greedy isBlank _ (fun _ _ _ => rfl) text
  rw [whole, ← trimStart_eq_nil_iff, ← List.isEmpty_iff]
  cases (trimStart text).isEmpty <;> simp [eq_comm]

/-- Blanks that nothing else can take are all taken. -/
private theorem full_gap {later : Expression}
    (forced : ∀ c rest, isBlank c = true → full later (c :: rest) = none) (text : List Char) :
    full (both gapPattern later) text =
      if text.head?.any isBlank then full later (trimStart text) else none := by
  rw [gapPattern, several, full_assoc]
  cases text with
  | nil => rfl
  | cons c rest =>
    rw [full_one, full_many, runMany_greedy isBlank _ forced]
    cases blank : isBlank c with
    | false => simp [blank]
    | true => simp [blank, trimStart]

theorem gap_head {later : Expression} (reads : full (both gapPattern later) text = some groups) :
    text.head?.any isBlank = true := by
  cases text with
  | nil => cases reads
  | cons c rest =>
    rw [gapPattern, several, full_assoc, full_one] at reads
    cases here : isBlank c with
    | true => simpa using here
    | false =>
      rw [here] at reads
      cases reads

theorem full_char_forced {later : Expression} {mark : Char} (visible : isBlank mark = false) :
    ∀ c rest, isBlank c = true → full (both (charPattern mark) later) (c :: rest) = none := by
  intro c rest blank
  have other : (c == mark) = false := by
    rw [beq_eq_false_iff_ne]
    rintro rfl
    rw [visible] at blank
    cases blank
  rw [charPattern, full_one, other]
  rfl

/-- A visible character behind blanks. -/
theorem full_gap_char_eq_some_iff {later : Expression} (visible : isBlank mark = false) :
    full (both gapPattern (both (charPattern mark) later)) text = some groups ↔
      ∃ front rest, Blanks front ∧ front ≠ [] ∧ text = front ++ mark :: rest ∧
        full later rest = some groups := by
  rw [full_gap (full_char_forced visible)]
  constructor
  · intro found
    split at found
    · rename_i starts
      obtain ⟨front, blank, some_front, parts⟩ := leading_blanks starts
      obtain ⟨rest, here, after⟩ := full_char_eq_some_iff.mp found
      exact ⟨front, rest, blank, some_front, by rw [← here, ← parts], after⟩
    · cases found
  · rintro ⟨front, rest, blank, some_front, rfl, after⟩
    rw [if_pos (blank.head some_front _), trimStart_blanks_append blank (by simp [visible])]
    exact full_char_eq_some_iff.mpr ⟨rest, rfl, after⟩

/-- What is left of a kind behind its opening parenthesis. -/
theorem full_kind_rest_eq_some_iff :
    full (both (both (group 3 (many true (· != ')'))) (charPattern ')')) marginPattern) text =
      some groups ↔ ∃ kind trail, text = kind ++ ')' :: trail ∧ ')' ∉ kind ∧ Blanks trail ∧
        groups = [(3, kind)] := by
  have closed : ∀ c rest, (c != ')') = true →
      full (both (charPattern ')') marginPattern) (c :: rest) = none := by
    intro c rest other
    rw [charPattern, full_one, beq_eq_false_iff_ne.mpr (bne_iff_ne.mp other)]
    rfl
  rw [full_assoc, full_greedy_group _ _ _ closed, Option.map_eq_some_iff]
  simp only [full_char_eq_some_iff, full_margin_eq_some_iff]
  constructor
  · rintro ⟨_, ⟨trail, behind, blank, rfl⟩, rfl⟩
    refine ⟨text.takeWhile (· != ')'), trail, ?_, ?_, blank, rfl⟩
    · rw [← behind, List.takeWhile_append_dropWhile]
    · intro member
      have other := List.all_eq_true.mp List.all_takeWhile _ member
      simp at other
  · rintro ⟨kind, trail, rfl, absent, blank, rfl⟩
    have passed : ∀ c ∈ kind, (c != ')') = true := by
      intro c member
      rw [bne_iff_ne]
      rintro rfl
      exact absent member
    refine ⟨[], ⟨trail, ?_, blank, rfl⟩, ?_⟩
    · rw [List.dropWhile_append_of_pos passed]
      rfl
    · rw [List.takeWhile_append_of_pos passed]
      simp

theorem full_kind_eq_some_iff : full (both kindPattern marginPattern) text = some groups ↔
    ∃ kind, parenthesised? (trimEnd text) = some kind ∧ groups = [(3, kind)] := by
  rw [kindPattern, full_assoc, full_congr (full_assoc _ _ _), full_gap_char_eq_some_iff (by decide)]
  simp only [full_kind_rest_eq_some_iff, parenthesised_eq_some_iff]
  constructor
  · rintro ⟨front, rest, blank, some_front, rfl, kind, trail, rfl, absent, trail_blank, rfl⟩
    refine ⟨kind, ⟨front, blank, some_front, ?_, absent⟩, rfl⟩
    have parts : front ++ '(' :: (kind ++ ')' :: trail) =
        front ++ '(' :: (kind ++ [')']) ++ trail := by simp
    have last : (front ++ '(' :: (kind ++ [')'])).getLast?.any isBlank = false := by
      rw [← List.cons_append, ← List.append_assoc, List.getLast?_concat]
      rfl
    rw [parts, trimEnd_append_blank trail_blank, trimEnd_of_last last]
  · rintro ⟨kind, ⟨front, blank, some_front, parts, absent⟩, rfl⟩
    obtain ⟨trail, trail_blank, split⟩ := trimEnd_split text
    refine ⟨front, kind ++ ')' :: trail, blank, some_front, ?_, kind, trail, rfl, absent,
      trail_blank, rfl⟩
    rw [split, parts]
    simp

private theorem full_closing_kind (reads : parenthesised? (trimEnd text) = some kind) :
    full closingPattern text = some [(3, kind)] := by
  rw [closingPattern, full_maybe, full_kind_eq_some_iff.mpr ⟨kind, reads, rfl⟩]
  rfl

private theorem full_closing_silent (silent : parenthesised? (trimEnd text) = none) :
    full closingPattern text = full marginPattern text := by
  have unread : full (both kindPattern marginPattern) text = none := by
    rw [Option.eq_none_iff_forall_ne_some]
    intro groups found
    obtain ⟨kind, reads, _⟩ := full_kind_eq_some_iff.mp found
    rw [silent] at reads
    cases reads
  rw [closingPattern, full_maybe, unread]
  rfl

theorem full_word (index : Nat) (later : Expression) {text : List Char} (feedless : '\n' ∉ text) :
    full (both (wordPattern index) later) text =
      (splitFirst (full later) text).map fun (before, found) => (index, before) :: found := by
  apply full_lazy_group
  intro c member
  rw [bne_iff_ne]
  rintro rfl
  exact feedless member

/-- Inside the name and its kind, the text can only end with the kind. -/
private theorem full_closing_back {text first back trail : List Char}
    (parts : trimEnd text = first ++ back) (some_back : back ≠ []) (blank : Blanks trail) :
    full closingPattern (back ++ trail) = (parenthesised? back).map fun kind => [(3, kind)] := by
  have last : back.getLast?.any isBlank = false := by
    have whole := trimEnd_last text
    rwa [parts, List.getLast?_append, List.getLast?_eq_some_getLast some_back, Option.some_or,
      ← List.getLast?_eq_some_getLast some_back] at whole
  have trimmed : trimEnd (back ++ trail) = back := by
    rw [trimEnd_append_blank blank, trimEnd_of_last last]
  cases reads : parenthesised? back with
  | some kind => exact full_closing_kind (by rw [trimmed, reads])
  | none =>
    rw [full_closing_silent (by rw [trimmed, reads])]
    have unread : ¬ Blanks (back ++ trail) := by
      intro all_blank
      have empty := trimEnd_append_blank all_blank []
      rw [List.nil_append, trimmed] at empty
      exact some_back empty
    rw [Option.map_none, Option.eq_none_iff_forall_ne_some]
    intro groups found
    exact unread (full_margin_eq_some_iff.mp found).1

/-- Behind an arrow, a visible name is split from its kind as the reader of lines does. -/
theorem full_target {text : List Char} (feedless : '\n' ∉ text) (nonempty : text ≠ [])
    (visible : text.head?.any isBlank = false) :
    full targetPattern text = some (targetGroups (splitKind (trimEnd text))) := by
  obtain ⟨trail, blank, whole⟩ := trimEnd_split text
  have some_name := trimEnd_ne_nil nonempty visible
  have at_end : full closingPattern trail = some [] := by
    have silent : parenthesised? (trimEnd trail) = none := by
      have empty := trimEnd_append_blank blank []
      rw [List.nil_append] at empty
      rw [empty]
      rfl
    rw [full_closing_silent silent, full_margin_eq_some_iff]
    exact ⟨blank, rfl⟩
  rw [targetPattern, full_word 2 _ feedless, splitKind_eq]
  cases split : splitFirst parenthesised? (trimEnd text) with
  | none =>
    have cut : splitFirst (full closingPattern) (trimEnd text ++ trail) =
        some (trimEnd text, []) := by
      apply splitFirst_complete some_name at_end
      intro first second parts some_first some_second
      rw [full_closing_back parts some_second blank,
        splitFirst_eq_none_iff.mp split first second parts some_first]
      rfl
    rw [← whole] at cut
    rw [cut]
    rfl
  | some parts =>
    obtain ⟨name, kind⟩ := parts
    obtain ⟨back, parts, named, reads⟩ := splitFirst_sound split
    have some_back : back ≠ [] := by
      rintro rfl
      cases reads
    have here := full_closing_back parts some_back blank
    rw [reads] at here
    have cut : splitFirst (full closingPattern) (name ++ (back ++ trail)) =
        some (name, [(3, kind)]) := by
      apply splitFirst_complete named here
      intro first second inside some_first some_second
      have quiet := splitFirst_quiet (parts ▸ split) first second inside some_first some_second
      have later : trimEnd text = first ++ (second ++ back) := by
        rw [parts, inside, List.append_assoc]
      rw [← List.append_assoc, full_closing_back later (by simp [some_second]) blank, quiet]
      rfl
    rw [← List.append_assoc, ← parts, ← whole] at cut
    rw [cut]
    rfl

/-- Blanks alone can be taken for a name. -/
private theorem full_target_blank {text : List Char} (feedless : '\n' ∉ text) (blank : Blanks text)
    (reads : full targetPattern text = some groups) :
    ∃ target found, groups = (2, target) :: found ∧ Blanks target := by
  rw [targetPattern, full_word 2 _ feedless, Option.map_eq_some_iff] at reads
  obtain ⟨⟨target, found⟩, split, rfl⟩ := reads
  obtain ⟨after, rfl, _, _⟩ := splitFirst_sound split
  exact ⟨target, found, rfl, fun c member => blank c (by simp [member])⟩

/-- The blanks behind an arrow go to its name only if nothing visible follows. -/
theorem full_spaced_target {text : List Char} (feedless : '\n' ∉ text)
    (starts : text.head?.any isBlank = true) (nonempty : trimStart text ≠ []) :
    full (both gapPattern targetPattern) text = full targetPattern (trimStart text) := by
  cases text with
  | nil => cases starts
  | cons c rest =>
    have blank : isBlank c = true := by simpa using starts
    rw [trimStart_cons_blank blank] at nonempty ⊢
    have shorter : '\n' ∉ trimStart rest := by
      intro member
      exact feedless (List.mem_cons_of_mem c (trimStart_subset rest member))
    have named := full_target shorter nonempty (trimStart_head rest)
    rw [gapPattern, several, full_assoc, full_one, blank, if_pos rfl, full_many]
    rw [runMany_greedy_all isBlank named, named]

theorem full_spaced_target_blank {text : List Char} (feedless : '\n' ∉ text) (blank : Blanks text)
    (reads : full (both gapPattern targetPattern) text = some groups) :
    ∃ target found, groups = (2, target) :: found ∧ Blanks target := by
  cases text with
  | nil => cases reads
  | cons c rest =>
    obtain ⟨here, others⟩ := List.forall_mem_cons.mp blank
    rw [gapPattern, several, full_assoc, full_one, here, if_pos rfl, full_many] at reads
    obtain ⟨front, back, rfl, _, found⟩ := runMany_sound reads
    have shorter : '\n' ∉ back := by
      intro member
      exact feedless (by simp [member])
    exact full_target_blank shorter (fun d member => others d (by simp [member])) found

end DevlogGraph.Pattern
