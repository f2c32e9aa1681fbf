import DevlogGraph.Ledger.Render
import DevlogGraph.Proofs.Ledger.Line
import DevlogGraph.Proofs.Text.Within

/-! What it means that a text mentions an edge: some stretch of it is the one name, blanks, an arrow,
blanks and the other name, up to the case of the letters. More text takes no mention away, and every
written line mentions its edge, whatever its names are. -/
namespace DevlogGraph.Ledger

open Text Pattern

/-- The same letters in the same places, whatever their case. -/
def Alike (text other : List Char) : Prop := text.map fold = other.map fold

/-- A stretch of text in which the first name points to the second. -/
structure Pointing (source target stretch : List Char) : Prop where
  split : ∃ front blanks gap back, stretch = front ++ blanks ++ '-' :: '>' :: (gap ++ back) ∧
    Alike front source ∧ Blanks blanks ∧ Blanks gap ∧ Alike back target

/-- Some stretch of the content points from the one name to the other. -/
def Mentioned (content source target : List Char) : Prop :=
  ∃ before stretch after, content = before ++ stretch ++ after ∧ Pointing source target stretch

theorem behind_eq_some_iff : behind? name text = some rest ↔
    ∃ front, text = front ++ rest ∧ Alike front name := by
  induction name generalizing text with
  | nil =>
    constructor
    · intro found
      exact ⟨[], Option.some.inj found, rfl⟩
    · rintro ⟨front, rfl, alike⟩
      have empty : front = [] := List.map_eq_nil_iff.mp alike
      rw [empty]
      rfl
  | cons letter later ih =>
    cases text with
    | nil => simp [behind?, Alike]
    | cons c others =>
      rw [behind?]
      by_cases same : sameFold letter c = true
      · rw [if_pos same, ih]
        have folded : fold letter = fold c := beq_iff_eq.mp same
        constructor
        · rintro ⟨front, rfl, alike⟩
          exact ⟨c :: front, rfl, List.cons_eq_cons.mpr ⟨folded.symm, alike⟩⟩
        · rintro ⟨front, cut, alike⟩
          cases front with
          | nil => cases alike
          | cons first more =>
            rw [List.cons_append, List.cons.injEq] at cut
            exact ⟨more, cut.2, (List.cons.inj alike).2⟩
      · rw [if_neg same]
        constructor
        · intro found
          cases found
        · rintro ⟨front, cut, alike⟩
          cases front with
          | nil => cases alike
          | cons first more =>
            rw [List.cons_append, List.cons.injEq] at cut
            have folded : fold c = fold letter := cut.1 ▸ (List.cons.inj alike).1
            exact absurd (beq_iff_eq.mpr folded.symm) same

theorem acrossBlanks_iff {test : List Char → Bool} {text : List Char} :
    acrossBlanks test text = true ↔
      ∃ blanks rest, text = blanks ++ rest ∧ Blanks blanks ∧ test rest = true := by
  induction text with
  | nil =>
    constructor
    · intro found
      exact ⟨[], [], rfl, by simp [Blanks], found⟩
    · rintro ⟨blanks, rest, cut, _, found⟩
      obtain ⟨rfl, rfl⟩ := List.append_eq_nil_iff.mp cut.symm
      exact found
  | cons c later ih =>
    rw [acrossBlanks, Bool.or_eq_true, Bool.and_eq_true, ih]
    constructor
    · rintro (here | ⟨blank, blanks, rest, rfl, others, found⟩)
      · exact ⟨[], c :: later, rfl, by simp [Blanks], here⟩
      · exact ⟨c :: blanks, rest, rfl, List.forall_mem_cons.mpr ⟨blank, others⟩, found⟩
    · rintro ⟨blanks, rest, cut, blank, found⟩
      cases blanks with
      | nil =>
        rw [List.nil_append] at cut
        exact .inl (cut ▸ found)
      | cons first others =>
        rw [List.cons_append, List.cons.injEq] at cut
        obtain ⟨rfl, rfl⟩ := cut
        obtain ⟨first_blank, others_blank⟩ := List.forall_mem_cons.mp blank
        exact .inr ⟨first_blank, others, rest, rfl, others_blank, found⟩

theorem startsWithTarget_iff {target text : List Char} : startsWithTarget target text = true ↔
    ∃ back after, text = back ++ after ∧ Alike back target := by
  rw [startsWithTarget, Option.isSome_iff_exists]
  simp only [behind_eq_some_iff]
  exact exists_comm

theorem startsWithArrow_iff {target text : List Char} : startsWithArrow target text = true ↔
    ∃ gap back after, text = '-' :: '>' :: (gap ++ (back ++ after)) ∧ Blanks gap ∧
      Alike back target := by
  constructor
  · intro found
    unfold startsWithArrow at found
    split at found
    · obtain ⟨gap, rest, rfl, blank, starts⟩ := acrossBlanks_iff.mp found
      obtain ⟨back, after, rfl, alike⟩ := startsWithTarget_iff.mp starts
      exact ⟨gap, back, after, rfl, blank, alike⟩
    · cases found
  · rintro ⟨gap, back, after, rfl, blank, alike⟩
    exact acrossBlanks_iff.mpr ⟨gap, back ++ after, rfl, blank,
      startsWithTarget_iff.mpr ⟨back, after, rfl, alike⟩⟩

theorem mentionedHere_iff : mentionedHere source target text = true ↔
    ∃ stretch after, text = stretch ++ after ∧ Pointing source target stretch := by
  constructor
  · intro found
    unfold mentionedHere at found
    split at found
    · rename_i rest starts
      obtain ⟨front, rfl, front_alike⟩ := behind_eq_some_iff.mp starts
      obtain ⟨blanks, arrow, rfl, blank, points⟩ := acrossBlanks_iff.mp found
      obtain ⟨gap, back, after, rfl, gap_blank, back_alike⟩ := startsWithArrow_iff.mp points
      exact ⟨front ++ blanks ++ '-' :: '>' :: (gap ++ back), after, by simp,
        ⟨front, blanks, gap, back, rfl, front_alike, blank, gap_blank, back_alike⟩⟩
    · cases found
  · rintro ⟨stretch, after, rfl, front, blanks, gap, back, rfl, front_alike, blank, gap_blank,
      back_alike⟩
    have starts : behind? source (front ++ blanks ++ '-' :: '>' :: (gap ++ back) ++ after) =
        some (blanks ++ '-' :: '>' :: (gap ++ (back ++ after))) :=
      behind_eq_some_iff.mpr ⟨front, by simp, front_alike⟩
    unfold mentionedHere
    rw [starts]
    exact acrossBlanks_iff.mpr ⟨blanks, _, rfl, blank,
      startsWithArrow_iff.mpr ⟨gap, back, after, rfl, gap_blank, back_alike⟩⟩

theorem mentions_iff : mentions content source target = true ↔ Mentioned content source target := by
  rw [mentions, somewhere_iff]
  constructor
  · rintro ⟨before, rest, rfl, found⟩
    obtain ⟨stretch, after, rfl, points⟩ := mentionedHere_iff.mp found
    exact ⟨before, stretch, after, by simp, points⟩
  · rintro ⟨before, stretch, after, rfl, points⟩
    exact ⟨before, stretch ++ after, by simp, mentionedHere_iff.mpr ⟨stretch, after, rfl, points⟩⟩

/-- More text takes no mention away. -/
theorem Mentioned.around (mentioned : Mentioned content source target) (front back : List Char) :
    Mentioned (front ++ content ++ back) source target := by
  obtain ⟨before, stretch, after, rfl, points⟩ := mentioned
  exact ⟨front ++ before, stretch, after ++ back, by simp, points⟩

theorem mentionsEdge_iff : mentionsEdge content edge = true ↔
    Mentioned content.toList edge.source.toList edge.target.toList :=
  mentions_iff

private theorem mentionsEdge_line (edge : Relationship) : mentionsEdge (line edge) edge = true := by
  rw [mentionsEdge_iff, line_toList]
  refine ⟨['-', ' '], edge.source.toList ++ [' '] ++ '-' :: '>' :: ([' '] ++ edge.target.toList),
    ' ' :: '(' :: (edge.kind.toList ++ [')']), by simp [lineEnd], ?_⟩
  exact ⟨_, [' '], [' '], _, rfl, rfl, blanks_space, blanks_space, rfl⟩

theorem mentionsEdge_linesText (member : edge ∈ edges) (before : String) :
    mentionsEdge (before ++ linesText edges) edge = true := by
  obtain ⟨earlier, later, rfl⟩ := List.append_of_mem member
  have own := mentionsEdge_line edge
  rw [mentionsEdge_iff] at own ⊢
  have parts : (before ++ linesText (earlier ++ edge :: later)).toList =
      (before ++ linesText earlier).toList ++ (line edge).toList ++
        ("\n" ++ linesText later).toList := by
    simp [linesText, String.join_cons, ← String.toList_append, String.append_assoc]
  rw [parts]
  exact own.around _ _

end DevlogGraph.Ledger
