import DevlogGraph.Text.Blank

/-! Trimming: blanks go from the ends, and only from there. -/
namespace DevlogGraph.Text

/-- There is no blank at either end. -/
structure Trimmed (text : List Char) : Prop where
  head : text.head?.any isBlank = false
  last : text.getLast?.any isBlank = false

theorem trimStart_cons_blank (blank : isBlank c = true) (rest : List Char) :
    trimStart (c :: rest) = trimStart rest :=
  List.dropWhile_cons_of_pos blank

theorem trimStart_of_head {text : List Char} (visible : text.head?.any isBlank = false) :
    trimStart text = text := by
  cases text with
  | nil => rfl
  | cons c rest => exact List.dropWhile_cons_of_neg (by simpa using visible)

theorem trimEnd_of_last {text : List Char} (visible : text.getLast?.any isBlank = false) :
    trimEnd text = text := by
  have reversed : trimStart text.reverse = text.reverse :=
    trimStart_of_head (by simpa using visible)
  unfold trimEnd
  rw [show text.reverse.dropWhile isBlank = text.reverse from reversed, List.reverse_reverse]

theorem trimStart_append_blank {blanks : List Char} (blank : ∀ c ∈ blanks, isBlank c = true)
    (rest : List Char) : trimStart (blanks ++ rest) = trimStart rest := by
  induction blanks with
  | nil => rfl
  | cons c later ih =>
    rw [List.cons_append, trimStart_cons_blank (blank c (by simp))]
    exact ih fun d member => blank d (by simp [member])

theorem trimEnd_append_blank {blanks : List Char} (blank : ∀ c ∈ blanks, isBlank c = true)
    (text : List Char) : trimEnd (text ++ blanks) = trimEnd text := by
  have backwards : ∀ c ∈ blanks.reverse, isBlank c = true := by simpa using blank
  have reversed := trimStart_append_blank backwards text.reverse
  unfold trimStart at reversed
  unfold trimEnd
  rw [List.reverse_append, reversed]

theorem trimStart_split (text : List Char) :
    ∃ blanks, (∀ c ∈ blanks, isBlank c = true) ∧ text = blanks ++ trimStart text := by
  refine ⟨text.takeWhile isBlank, ?_, List.takeWhile_append_dropWhile.symm⟩
  exact List.all_eq_true.mp List.all_takeWhile

theorem trimEnd_split (text : List Char) :
    ∃ blanks, (∀ c ∈ blanks, isBlank c = true) ∧ text = trimEnd text ++ blanks := by
  obtain ⟨blanks, blank, split⟩ := trimStart_split text.reverse
  refine ⟨blanks.reverse, by simpa using blank, ?_⟩
  calc text = (text.reverse).reverse := by rw [List.reverse_reverse]
    _ = (blanks ++ trimStart text.reverse).reverse := by rw [← split]
    _ = trimEnd text ++ blanks.reverse := by rw [List.reverse_append]; rfl

theorem trimStart_head (text : List Char) : (trimStart text).head?.any isBlank = false := by
  induction text with
  | nil => rfl
  | cons c rest ih =>
    cases blank : isBlank c with
    | true => rwa [trimStart_cons_blank blank]
    | false =>
      rw [trimStart_of_head (by simpa using blank)]
      simpa using blank

theorem trimStart_subset (text : List Char) : trimStart text ⊆ text :=
  (List.dropWhile_sublist isBlank).subset

theorem trimEnd_last (text : List Char) : (trimEnd text).getLast?.any isBlank = false := by
  have reversed := trimStart_head text.reverse
  unfold trimEnd
  rwa [List.getLast?_reverse]

theorem trim_trimmed (text : List Char) : Trimmed (trim text) := by
  refine ⟨?_, trimEnd_last _⟩
  obtain ⟨blanks, blank, split⟩ := trimEnd_split (trimStart text)
  have visible := trimStart_head text
  unfold trim
  cases kept : trimEnd (trimStart text) with
  | nil => rfl
  | cons c rest =>
    rw [split, kept] at visible
    simpa using visible

theorem trim_eq_self_iff (text : List Char) : trim text = text ↔ Trimmed text := by
  constructor
  · intro same
    rw [← same]
    exact trim_trimmed text
  · intro trimmed
    unfold trim
    rw [trimStart_of_head trimmed.head, trimEnd_of_last trimmed.last]

theorem trimmed_of_visible {text : List Char} (visible : ∀ c ∈ text, isBlank c = false) :
    Trimmed text := by
  constructor
  · cases text with
    | nil => rfl
    | cons c rest => simpa using visible c (by simp)
  · rw [← List.head?_reverse]
    cases reversed : text.reverse with
    | nil => rfl
    | cons c rest =>
      have present : c ∈ text := List.mem_reverse.mp (by simp [reversed])
      simpa using visible c present

/-- Trimming cuts blanks off both ends. -/
theorem trim_split (text : List Char) :
    ∃ front back, text = front ++ trim text ++ back ∧ (∀ c ∈ front, isBlank c = true) ∧
      ∀ c ∈ back, isBlank c = true := by
  obtain ⟨front, front_blank, starts⟩ := trimStart_split text
  obtain ⟨back, back_blank, ends⟩ := trimEnd_split (trimStart text)
  refine ⟨front, back, ?_, front_blank, back_blank⟩
  calc text = front ++ trimStart text := starts
    _ = front ++ (trim text ++ back) := congrArg (front ++ ·) ends
    _ = front ++ trim text ++ back := (List.append_assoc _ _ _).symm

theorem trim_between {before text after : List Char} (front : ∀ c ∈ before, isBlank c = true)
    (trimmed : Trimmed text) (behind : ∀ c ∈ after, isBlank c = true) :
    trim (before ++ text ++ after) = text := by
  rw [trim, List.append_assoc, trimStart_append_blank front]
  cases text with
  | nil => rw [List.nil_append, ← List.append_nil after, trimStart_append_blank behind]; rfl
  | cons c rest =>
    have visible : (c :: rest ++ after).head?.any isBlank = false := trimmed.head
    rw [trimStart_of_head visible, trimEnd_append_blank behind, trimEnd_of_last trimmed.last]

theorem trim_sublist (text : List Char) : (trim text).Sublist text := by
  obtain ⟨front, back, split, _, _⟩ := trim_split text
  have inner : (trim text).Sublist (front ++ trim text ++ back) :=
    (List.sublist_append_right front _).trans (List.sublist_append_left _ back)
  rwa [← split] at inner

/-- A visible character is not trimmed away. -/
theorem mem_trim (visible : isBlank c = false) (member : c ∈ text) : c ∈ trim text := by
  obtain ⟨front, back, split, front_blank, back_blank⟩ := trim_split text
  rw [split, List.mem_append, List.mem_append] at member
  rcases member with (before | inside) | behind
  · rw [front_blank c before] at visible
    cases visible
  · exact inside
  · rw [back_blank c behind] at visible
    cases visible

theorem trim_eq_nil_iff : trim text = [] ↔ ∀ c ∈ text, isBlank c = true := by
  constructor
  · intro empty c member
    cases visible : isBlank c with
    | true => rfl
    | false =>
      have kept := mem_trim visible member
      rw [empty] at kept
      cases kept
  · intro blank
    cases kept : trim text with
    | nil => rfl
    | cons c rest =>
      have visible := (trim_trimmed text).head
      have hidden := blank c ((trim_sublist text).subset (by simp [kept]))
      simp [kept, hidden] at visible

end DevlogGraph.Text
