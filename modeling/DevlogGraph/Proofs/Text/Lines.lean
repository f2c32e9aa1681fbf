import DevlogGraph.Text.Lines

/-! Lines of texts that are put together. A reader that ignores a carriage return at the end and
finds nothing in an empty line may as well read the pieces between the line feeds. -/
namespace DevlogGraph.Text

theorem pieces_ne_nil (mark : Char) (text : List Char) : pieces mark text ≠ [] := by
  cases text with
  | nil => simp [pieces]
  | cons c rest =>
    unfold pieces
    split
    · simp
    · split <;> simp

theorem pieces_mark (mark : Char) (rest : List Char) :
    pieces mark (mark :: rest) = [] :: pieces mark rest := by
  simp [pieces]

theorem pieces_of_ne (different : c ≠ mark) (split : pieces mark rest = piece :: later) :
    pieces mark (c :: rest) = (c :: piece) :: later := by
  rw [pieces, if_neg different, split]

theorem pieces_append_mark (mark : Char) (before after : List Char) :
    pieces mark (before ++ mark :: after) = pieces mark before ++ pieces mark after := by
  induction before with
  | nil => exact pieces_mark mark after
  | cons c rest ih =>
    by_cases same : c = mark
    · subst same
      rw [List.cons_append, pieces_mark, pieces_mark, ih, List.cons_append]
    · cases split : pieces mark rest with
      | nil => exact absurd split (pieces_ne_nil mark rest)
      | cons piece later =>
        rw [split, List.cons_append] at ih
        rw [List.cons_append, pieces_of_ne same ih, pieces_of_ne same split, List.cons_append]

theorem pieces_of_not_mem {text : List Char} (absent : mark ∉ text) :
    pieces mark text = [text] := by
  induction text with
  | nil => rfl
  | cons c rest ih =>
    rw [List.mem_cons, not_or] at absent
    exact pieces_of_ne (fun same => absent.1 same.symm) (ih absent.2)

theorem mark_not_mem_pieces {text : List Char} (member : piece ∈ pieces mark text) :
    mark ∉ piece := by
  induction text generalizing piece with
  | nil =>
    have empty : piece = [] := by simpa [pieces] using member
    simp [empty]
  | cons c rest ih =>
    by_cases same : c = mark
    · subst same
      rw [pieces_mark, List.mem_cons] at member
      rcases member with empty | later
      · simp [empty]
      · exact ih later
    · cases split : pieces mark rest with
      | nil => exact absurd split (pieces_ne_nil mark rest)
      | cons first others =>
        rw [split] at ih
        rw [pieces_of_ne same split, List.mem_cons] at member
        rcases member with here | later
        · rw [here, List.mem_cons, not_or]
          exact ⟨fun equal => same equal.symm, ih (by simp)⟩
        · exact ih (by simp [later])

private theorem pieces_inside (mark : Char) (text : List Char) :
    ∃ first later, pieces mark text = first :: later ∧ first <+: text ∧
      ∀ piece ∈ later, piece <:+: text := by
  induction text with
  | nil => exact ⟨[], [], rfl, List.prefix_rfl, by simp⟩
  | cons c rest ih =>
    obtain ⟨first, later, split, starts, inside⟩ := ih
    have wider {piece : List Char} (within : piece <:+: rest) : piece <:+: c :: rest :=
      within.trans (List.suffix_cons c rest).isInfix
    by_cases same : c = mark
    · subst same
      exact ⟨[], first :: later, by rw [pieces_mark, split], List.nil_prefix,
        List.forall_mem_cons.mpr ⟨wider starts.isInfix, fun piece member => wider (inside piece member)⟩⟩
    · exact ⟨c :: first, later, pieces_of_ne same split, List.cons_prefix_cons.mpr ⟨rfl, starts⟩,
        fun piece member => wider (inside piece member)⟩

theorem infix_of_mem_pieces {text : List Char} (member : piece ∈ pieces mark text) :
    piece <:+: text := by
  obtain ⟨first, later, split, starts, inside⟩ := pieces_inside mark text
  rw [split] at member
  rcases List.mem_cons.mp member with rfl | others
  · exact starts.isInfix
  · exact inside piece others

/-- The lines of a text. Each goes up to a line feed, or to the carriage return just before it; the last
one may go on to the end of the text. -/
inductive Lines : List Char → List (List Char) → Prop where
  | nothing : Lines [] []
  | unended (nonempty : line ≠ []) (feedless : '\n' ∉ line) : Lines line [line]
  | feed (feedless : '\n' ∉ line) (plain : line.getLast? ≠ some '\r') (later : Lines rest others) :
      Lines (line ++ '\n' :: rest) (line :: others)
  | returned (feedless : '\n' ∉ line) (later : Lines rest others) :
      Lines (line ++ '\r' :: '\n' :: rest) (line :: others)

private theorem lines_append_feed {front : List Char} (feedless : '\n' ∉ front) (rest : List Char) :
    lines (front ++ '\n' :: rest) = withoutReturn front :: lines rest := by
  rw [lines, lines, pieces_append_mark, pieces_of_not_mem feedless]
  cases split : pieces '\n' rest with
  | nil => exact absurd split (pieces_ne_nil '\n' rest)
  | cons piece later => rfl

private theorem lines_of_feedless {text : List Char} (feedless : '\n' ∉ text) :
    lines text = if text = [] then [] else [text] := by
  rw [lines, pieces_of_not_mem feedless, linesOfPieces]

private theorem lines_shape (text : List Char) : Lines text (lines text) := by
  induction size : text.length using Nat.strongRecOn generalizing text with
  | ind length shorter =>
  by_cases fed : '\n' ∈ text
  · obtain ⟨front, rest, rfl, feedless⟩ := List.eq_append_cons_of_mem fed
    rw [List.length_append, List.length_cons] at size
    have later := shorter rest.length (by omega) rest rfl
    rw [lines_append_feed feedless]
    unfold withoutReturn
    split
    · rename_i returned
      obtain ⟨line, rfl⟩ := List.getLast?_eq_some_iff.mp returned
      rw [List.dropLast_concat, List.append_assoc]
      exact .returned (fun member => feedless (List.mem_append_left _ member)) later
    · rename_i plain
      exact .feed feedless plain later
  · rw [lines_of_feedless fed]
    split
    · rename_i empty
      rw [empty]
      exact .nothing
    · rename_i nonempty
      exact .unended nonempty fed

theorem lines_eq_iff : lines text = found ↔ Lines text found := by
  constructor
  · rintro rfl
    exact lines_shape text
  · intro shape
    induction shape with
    | nothing => rfl
    | unended nonempty feedless => rw [lines_of_feedless feedless, if_neg nonempty]
    | feed feedless plain _ ih => rw [lines_append_feed feedless, ih, withoutReturn, if_neg plain]
    | @returned line rest others feedless _ ih =>
      have whole : line ++ '\r' :: '\n' :: rest = (line ++ ['\r']) ++ '\n' :: rest := by simp
      have absent : '\n' ∉ line ++ ['\r'] := by simpa using feedless
      rw [whole, lines_append_feed absent, ih, withoutReturn, if_pos List.getLast?_concat,
        List.dropLast_concat]

/-- A line is the beginning of what stands between two line feeds. -/
private theorem prefix_of_mem_lines {text : List Char} (member : line ∈ lines text) :
    ∃ piece ∈ pieces '\n' text, line <+: piece := by
  have general (split : List (List Char)) (member : line ∈ linesOfPieces split) :
      ∃ piece ∈ split, line <+: piece := by
    induction split with
    | nil => cases member
    | cons piece later ih =>
      cases later with
      | nil =>
        unfold linesOfPieces at member
        split at member
        · cases member
        · exact ⟨piece, List.mem_cons_self, (List.mem_singleton.mp member) ▸ List.prefix_rfl⟩
      | cons next others =>
        rw [linesOfPieces, List.mem_cons] at member
        · rcases member with rfl | there
          · refine ⟨piece, List.mem_cons_self, ?_⟩
            unfold withoutReturn
            split
            · exact List.dropLast_prefix piece
            · exact List.prefix_rfl
          · obtain ⟨found, inside, starts⟩ := ih there
            exact ⟨found, List.mem_cons_of_mem _ inside, starts⟩
        · simp
  exact general _ member

theorem infix_of_mem_lines {text : List Char} (member : line ∈ lines text) : line <:+: text := by
  obtain ⟨piece, inside, starts⟩ := prefix_of_mem_lines member
  exact starts.isInfix.trans (infix_of_mem_pieces inside)

theorem feed_not_mem_lines {text : List Char} (member : line ∈ lines text) : '\n' ∉ line := by
  obtain ⟨piece, inside, starts⟩ := prefix_of_mem_lines member
  intro feed
  exact mark_not_mem_pieces inside (starts.subset feed)

/-- What makes nothing of a carriage return at the end makes nothing of the one in an ending. -/
theorem blind_withoutReturn {read : List Char → α} (blind : ∀ front, read (front ++ ['\r']) = read front)
    (line : List Char) : read (withoutReturn line) = read line := by
  unfold withoutReturn
  split
  · rename_i returned
    obtain ⟨front, rfl⟩ := List.getLast?_eq_some_iff.mp returned
    rw [List.dropLast_concat, blind]
  · rfl

theorem filterMap_lines {read : List Char → Option α}
    (blind : ∀ line, read (withoutReturn line) = read line)
    (nothing : read [] = none) (text : List Char) :
    (lines text).filterMap read = (pieces '\n' text).filterMap read := by
  have general (split : List (List Char)) :
      (linesOfPieces split).filterMap read = split.filterMap read := by
    induction split with
    | nil => rfl
    | cons piece later ih =>
      cases later with
      | nil =>
        unfold linesOfPieces
        split
        · rename_i empty
          simp [empty, nothing]
        · rfl
      | cons next others =>
        rw [linesOfPieces, List.filterMap_cons, List.filterMap_cons, blind, ih]
        · simp
  exact general _

end DevlogGraph.Text
