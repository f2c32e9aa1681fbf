import DevlogGraph.Proofs.Ledger.Update
import DevlogGraph.Proofs.Pattern.Entities

/-! Where a mention can stand in a text of several lines. A mention has one arrow, and a name of one
line does not reach over a line feed, so the mention stays inside the line of its arrow. Inside that
line it may begin in the middle of a name and end in the middle of another one. -/
namespace DevlogGraph.Ledger

open Text Pattern

/-- No arrow is anywhere in the text. -/
def Arrowless (text : List Char) : Prop := holds ['-', '>'] text = false

instance (text : List Char) : Decidable (Arrowless text) := inferInstanceAs (Decidable (_ = _))

theorem arrowless_iff : Arrowless text ↔ ∀ front back, text ≠ front ++ '-' :: '>' :: back := by
  unfold Arrowless
  rw [Bool.eq_false_iff, Ne, holds_iff]
  simp

theorem Arrowless.of_inside (arrowless : Arrowless text) (inside : part <:+: text) : Arrowless part := by
  obtain ⟨front, back, rfl⟩ := inside
  rw [arrowless_iff] at arrowless ⊢
  rintro before after rfl
  exact arrowless (front ++ before) (after ++ back) (by simp)

section Mark

variable {mark : Char} (not_dash : mark ≠ '-') (not_angle : mark ≠ '>')
include not_dash not_angle

/-- An arrow stands on one side of every other character. -/
private theorem arrow_beside (same : front ++ mark :: back = before ++ '-' :: '>' :: after) :
    (∃ rest, front = before ++ '-' :: '>' :: rest ∧ after = rest ++ mark :: back) ∨
      ∃ rest, before = front ++ mark :: rest ∧ back = rest ++ '-' :: '>' :: after := by
  rcases List.append_eq_append_iff.mp same with ⟨more, rfl, split⟩ | ⟨more, rfl, split⟩
  · match more, split with
    | [], split => exact absurd (List.cons.inj split).1 not_dash
    | _ :: rest, split =>
      rw [List.cons_append, List.cons.injEq] at split
      obtain ⟨rfl, rfl⟩ := split
      exact .inr ⟨rest, rfl, rfl⟩
  · match more, split with
    | [], split => exact absurd (List.cons.inj split).1.symm not_dash
    | [_], split => exact absurd (List.cons.inj (List.cons.inj split).2).1.symm not_angle
    | _ :: _ :: rest, split =>
      simp only [List.cons_append, List.cons.injEq] at split
      obtain ⟨rfl, rfl, rfl⟩ := split
      exact .inl ⟨rest, rfl, rfl⟩

private theorem Arrowless.append_mark (arrowless : Arrowless text) (later : Arrowless more) :
    Arrowless (text ++ mark :: more) := by
  rw [arrowless_iff] at arrowless later ⊢
  intro front back cut
  rcases arrow_beside not_dash not_angle cut with ⟨rest, here, _⟩ | ⟨rest, _, there⟩
  · exact arrowless front rest here
  · exact later rest back there

end Mark

theorem arrowless_of_not_mem (absent : '-' ∉ text) : Arrowless text := by
  rw [arrowless_iff]
  rintro front back rfl
  simp at absent

theorem Arrowless.append_feeds (arrowless : Arrowless text) (fed : ∀ c ∈ gap, c = '\n') :
    Arrowless (text ++ gap) := by
  cases gap with
  | nil => simpa using arrowless
  | cons first rest =>
    obtain rfl := fed first List.mem_cons_self
    refine arrowless.append_mark (by decide) (by decide) (arrowless_of_not_mem fun dash => ?_)
    cases fed '-' (List.mem_cons_of_mem _ dash)

/-- Between two texts without arrows there is only the arrow that joins them. -/
theorem arrow_unique (left_free : Arrowless left) (right_free : Arrowless right)
    (same : left ++ '-' :: '>' :: right = front ++ '-' :: '>' :: back) :
    front = left ∧ back = right := by
  rcases List.append_eq_append_iff.mp same with ⟨more, rfl, split⟩ | ⟨more, rfl, split⟩
  · match more, split with
    | [], split => simpa using split.symm
    | [_], split => cases (List.cons.inj (List.cons.inj split).2).1
    | _ :: _ :: rest, split =>
      simp only [List.cons_append, List.cons.injEq] at split
      exact absurd split.2.2 (arrowless_iff.mp right_free rest back)
  · match more, split with
    | [], split => simpa using split
    | [_], split => cases (List.cons.inj (List.cons.inj split).2).1
    | _ :: _ :: rest, split =>
      simp only [List.cons_append, List.cons.injEq] at split
      obtain ⟨rfl, rfl, _⟩ := split
      exact absurd rfl (arrowless_iff.mp left_free front rest)

/-- The text ends in the name, up to blanks and the case of the letters. -/
def NameBefore (text name : List Char) : Prop :=
  ∃ before front blanks, text = before ++ (front ++ blanks) ∧ Alike front name ∧ Blanks blanks

/-- The text starts with the name, up to blanks and the case of the letters. -/
def NameBehind (text name : List Char) : Prop :=
  ∃ gap back after, text = gap ++ (back ++ after) ∧ Blanks gap ∧ Alike back name

theorem mentioned_iff_arrow : Mentioned content source target ↔
    ∃ front back, content = front ++ '-' :: '>' :: back ∧ NameBefore front source ∧
      NameBehind back target := by
  constructor
  · rintro ⟨before, _, after, rfl, front, blanks, gap, back, rfl, front_alike, blank, gap_blank,
      back_alike⟩
    exact ⟨before ++ (front ++ blanks), gap ++ (back ++ after), by simp,
      ⟨before, front, blanks, rfl, front_alike, blank⟩, ⟨gap, back, after, rfl, gap_blank, back_alike⟩⟩
  · rintro ⟨_, _, rfl, ⟨before, front, blanks, rfl, front_alike, blank⟩,
      ⟨gap, back, after, rfl, gap_blank, back_alike⟩⟩
    exact ⟨before, _, after, by simp,
      ⟨front, blanks, gap, back, rfl, front_alike, blank, gap_blank, back_alike⟩⟩

theorem Arrowless.unmentioned (arrowless : Arrowless content) : ¬ Mentioned content source target := by
  rw [mentioned_iff_arrow]
  rintro ⟨front, back, cut, _⟩
  exact arrowless_iff.mp arrowless front back cut

private theorem Alike.feed_mem (alike : Alike text name) (member : '\n' ∈ text) : '\n' ∈ name := by
  have folded : fold '\n' ∈ name.map fold := alike ▸ List.mem_map_of_mem member
  have kept : fold '\n' = '\n' := fold_of_blank (by decide)
  obtain ⟨c, inside, same⟩ := List.mem_map.mp folded
  rwa [eq_feed_of_fold (same.trans kept)] at inside

/-- Blanks that start before a line feed are all that follows it. -/
private theorem blanks_behind_feed {inner : List Char} (absent : '\n' ∉ inner)
    (blank : Blanks blanks) (same : inner ++ blanks = front ++ '\n' :: text) : Blanks text := by
  rcases List.append_eq_append_iff.mp same with ⟨more, _, split⟩ | ⟨more, rfl, split⟩
  · intro c member
    exact blank c (by simp [split, member])
  · cases more with
    | nil =>
      intro c member
      exact blank c (by simp [← show _ = blanks from split, member])
    | cons first rest =>
      rw [List.cons_append, List.cons.injEq] at split
      exact absurd (by simp [← split.1]) absent

/-- A name of one line that ends a text stands in its last line, unless that line is blank. -/
private theorem nameBefore_line (one : '\n' ∉ name) (visible : ¬ Blanks text) :
    NameBefore (front ++ '\n' :: text) name ↔ NameBefore text name := by
  constructor
  · rintro ⟨before, inner, blanks, cut, alike, blank⟩
    have absent : '\n' ∉ inner := one ∘ alike.feed_mem
    rcases List.append_eq_append_iff.mp cut with ⟨more, rfl, split⟩ | ⟨more, rfl, split⟩
    · cases more with
      | nil =>
        have same : inner ++ blanks = [] ++ '\n' :: text := split.symm
        exact absurd (blanks_behind_feed absent blank same) visible
      | cons first rest =>
        rw [List.cons_append, List.cons.injEq] at split
        exact ⟨rest, inner, blanks, split.2, alike, blank⟩
    · exact absurd (blanks_behind_feed absent blank split) visible
  · rintro ⟨before, inner, blanks, rfl, alike, blank⟩
    exact ⟨front ++ '\n' :: before, inner, blanks, by simp, alike, blank⟩

/-- A name of one line that starts a text stands in its first line, unless that line is blank. -/
private theorem nameBehind_line (one : '\n' ∉ name) (visible : ¬ Blanks text) :
    NameBehind (text ++ '\n' :: back) name ↔ NameBehind text name := by
  constructor
  · rintro ⟨gap, inner, after, cut, blank, alike⟩
    rcases List.append_eq_append_iff.mp cut with ⟨more, rfl, _⟩ | ⟨more, rfl, split⟩
    · refine absurd ?_ visible
      intro c member
      exact blank c (by simp [member])
    · rcases List.append_eq_append_iff.mp split with ⟨rest, rfl, _⟩ | ⟨rest, rfl, follows⟩
      · exact ⟨gap, inner, rest, rfl, blank, alike⟩
      · cases rest with
        | nil => exact ⟨gap, more, [], by simp, blank, by simpa using alike⟩
        | cons first others =>
          rw [List.cons_append, List.cons.injEq] at follows
          exact absurd (alike.feed_mem (by simp [← follows.1])) one
  · rintro ⟨gap, inner, after, rfl, blank, alike⟩
    exact ⟨gap, inner, after ++ '\n' :: back, by simp, blank, alike⟩

/-- Something visible stands on both sides of each arrow. -/
structure Standing (text : List Char) : Prop where
  before : ∀ front back, text = front ++ '-' :: '>' :: back → ¬ Blanks front
  behind : ∀ front back, text = front ++ '-' :: '>' :: back → ¬ Blanks back

theorem Arrowless.standing (arrowless : Arrowless text) : Standing text :=
  ⟨fun front back cut => absurd cut (arrowless_iff.mp arrowless front back),
    fun front back cut => absurd cut (arrowless_iff.mp arrowless front back)⟩

theorem Standing.append_feed (standing : Standing text) (later : Standing more) :
    Standing (text ++ '\n' :: more) := by
  constructor
  · intro front back cut blank
    rcases arrow_beside (by decide) (by decide) cut with ⟨rest, here, _⟩ | ⟨rest, rfl, there⟩
    · exact standing.before front rest here blank
    · exact later.before rest back there fun c member => blank c (by simp [member])
  · intro front back cut blank
    rcases arrow_beside (by decide) (by decide) cut with ⟨rest, here, rfl⟩ | ⟨rest, _, there⟩
    · exact standing.behind front rest here fun c member => blank c (by simp [member])
    · exact later.behind rest back there blank

/-- A text with something other than arrows at its ends. -/
private theorem standing_of_trimmed (trimmed : Trimmed text) (starts : ¬ ['-', '>'] <+: text)
    (stops : ¬ ['-', '>'] <:+ text) : Standing text := by
  constructor
  · rintro front back rfl blank
    cases front with
    | nil => exact starts ⟨back, rfl⟩
    | cons c rest =>
      have visible := trimmed.head
      have hidden := blank c List.mem_cons_self
      simp [hidden] at visible
  · rintro front back rfl blank
    obtain rfl | ⟨rest, c, rfl⟩ := List.eq_nil_or_concat back
    · exact stops ⟨front, rfl⟩
    · have visible := trimmed.last
      have hidden := blank c (by simp)
      simp [hidden, List.getLast?_append, List.getLast?_cons] at visible

theorem mentioned_append_feed (standing : Standing text) (later : Standing more)
    (one_source : '\n' ∉ source) (one_target : '\n' ∉ target) :
    Mentioned (text ++ '\n' :: more) source target ↔
      Mentioned text source target ∨ Mentioned more source target := by
  constructor
  · rw [mentioned_iff_arrow, mentioned_iff_arrow, mentioned_iff_arrow]
    rintro ⟨front, back, cut, named, pointed⟩
    rcases arrow_beside (by decide) (by decide) cut with ⟨rest, here, rfl⟩ | ⟨rest, rfl, there⟩
    · have visible := standing.behind front rest here
      exact .inl ⟨front, rest, here, named, (nameBehind_line one_target visible).mp pointed⟩
    · have visible := later.before rest back there
      exact .inr ⟨rest, back, there, (nameBefore_line one_source visible).mp named, pointed⟩
  · rintro (mentioned | mentioned)
    · exact mentioned.around [] ('\n' :: more)
    · simpa using mentioned.around (text ++ ['\n']) []

private theorem line_trimmed (edge : Relationship) : Trimmed (line edge).toList := by
  rw [line_toList, lineEnd]
  constructor
  · exact (by decide : isBlank '-' = false)
  · simp [List.getLast?_cons, List.getLast?_append]
    decide

private theorem line_not_arrow_first (edge : Relationship) :
    ¬ ['-', '>'] <+: (line edge).toList := by
  rw [line_toList]
  rintro ⟨_, same⟩
  simp at same

private theorem line_not_arrow_last (edge : Relationship) (front : List Char) :
    ¬ ['-', '>'] <:+ front ++ (line edge).toList := by
  rintro ⟨before, same⟩
  have last := congrArg List.getLast? same
  simp [line_toList, lineEnd, List.getLast?_cons, List.getLast?_append] at last

private theorem line_standing (edge : Relationship) : Standing (line edge).toList :=
  standing_of_trimmed (line_trimmed edge) (line_not_arrow_first edge) (line_not_arrow_last edge [])

/-- What a line says before its arrow. -/
def lineStart (source : List Char) : List Char := '-' :: ' ' :: (source ++ [' '])

/-- The first name of the pair ends what the line says before its arrow, and the second name starts
what it says behind it. Either may be a part of a longer name there. -/
structure Hidden (pair : String × String) (edge : Relationship) : Prop where
  source : NameBefore (lineStart edge.source.toList) pair.1.toList
  target : NameBehind (' ' :: lineEnd edge.target.toList edge.kind.toList) pair.2.toList

private theorem arrowless_lineStart (free : Arrowless source) : Arrowless (lineStart source) := by
  have dash : Arrowless ['-'] := by decide
  exact dash.append_mark (by decide) (by decide)
    (free.append_mark (by decide) (by decide) (arrowless_of_not_mem List.not_mem_nil))

private theorem arrowless_lineEnd (target_free : Arrowless target) (kind_free : Arrowless kind) :
    Arrowless (' ' :: lineEnd target kind) := by
  have empty : Arrowless [] := by decide
  refine empty.append_mark (by decide) (by decide)
    (target_free.append_mark (by decide) (by decide) ?_)
  exact empty.append_mark (by decide) (by decide)
    (kind_free.append_mark (by decide) (by decide) empty)

theorem pairMentioned_line_iff (source : Arrowless edge.source.toList)
    (target : Arrowless edge.target.toList) (kind : Arrowless edge.kind.toList) :
    PairMentioned (line edge) pair ↔ Hidden pair edge := by
  have cut : (line edge).toList = lineStart edge.source.toList ++
      '-' :: '>' :: (' ' :: lineEnd edge.target.toList edge.kind.toList) := by
    simp [line_toList, lineStart]
  rw [PairMentioned, mentioned_iff_arrow, cut]
  constructor
  · rintro ⟨front, back, same, named, pointed⟩
    obtain ⟨rfl, rfl⟩ := arrow_unique (arrowless_lineStart source) (arrowless_lineEnd target kind) same
    exact ⟨named, pointed⟩
  · rintro ⟨named, pointed⟩
    exact ⟨_, _, rfl, named, pointed⟩

/-- Also with the header and the hint before it a line has no arrow at an end. The hint alone has
one: its comment closes in an arrow, and a name may stand behind it in the line. -/
theorem preamble_line_standing (edge : Relationship) : Standing (preamble ++ line edge).toList := by
  obtain ⟨later, starts⟩ := preamble_titled (line edge)
  refine standing_of_trimmed ⟨?_, ?_⟩ ?_ ?_
  · rw [starts]
    exact (by decide : isBlank '#' = false)
  · have last := (line_trimmed edge).last
    have some_line : (line edge).toList ≠ [] := by simp [line_toList]
    rwa [String.toList_append, List.getLast?_append_of_ne_nil _ some_line]
  · rw [starts]
    rintro ⟨_, same⟩
    simp at same
  · rw [String.toList_append]
    exact line_not_arrow_last edge _

theorem linesText_cons (edge : Relationship) (edges : List Relationship) :
    linesText (edge :: edges) = line edge ++ "\n" ++ linesText edges := by
  simp [linesText, String.join_cons]

/-- Behind a text, each line makes its own mentions. -/
theorem mentioned_linesText (standing : Standing text) (one_source : '\n' ∉ source)
    (one_target : '\n' ∉ target) (edges : List Relationship) :
    Mentioned (text ++ '\n' :: (linesText edges).toList) source target ↔
      Mentioned text source target ∨ ∃ edge ∈ edges, Mentioned (line edge).toList source target := by
  induction edges generalizing text with
  | nil =>
    have silent : Arrowless (linesText []).toList := by decide
    rw [mentioned_append_feed standing silent.standing one_source one_target]
    simp [silent.unmentioned]
  | cons edge rest ih =>
    have lines : text ++ '\n' :: (linesText (edge :: rest)).toList =
        text ++ '\n' :: (line edge).toList ++ '\n' :: (linesText rest).toList := by
      simp [linesText_cons]
    rw [lines, ih (standing.append_feed (line_standing edge)),
      mentioned_append_feed standing (line_standing edge) one_source one_target, or_assoc]
    simp

end DevlogGraph.Ledger
