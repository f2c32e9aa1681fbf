import DevlogGraph.Proofs.Ledger.Mention
import DevlogGraph.Proofs.Pattern.LinePattern
import DevlogGraph.Proofs.Pattern.Writing
import DevlogGraph.Proofs.Text.Fold

/-! Looking for a mention by a written expression. Both names are spelled out in it, so it reads well
whatever they hold, and it is found where the edge is mentioned. A mention stays one when more text is
put around it and when letters change their case, in the text or in the names. -/
namespace DevlogGraph.Ledger

open Text Pattern Expression

/-- `(?i)source\s*->\s*target`, with the names spelled out. -/
def mentionPattern (source target : List Char) : List Char :=
  ['(', '?', 'i', ')'] ++ (spelled source ++ (['\\', 's', '*', '-', '>', '\\', 's', '*'] ++
    spelled target))

/-- One character after another, each in any case. -/
def lettersOf (name : List Char) : List Expression :=
  name.map fun c => one (letterTest true c)

/-- From the blanks before the arrow on. -/
def arrowTo (target : List Char) : List Expression :=
  marginPattern :: (lettersOf ['-', '>'] ++ marginPattern :: lettersOf target)

/-- The letters of the one name, an arrow with blanks around it, and the letters of the other name. -/
def mentionExpression (source target : List Char) : Expression :=
  sequence (lettersOf source ++ arrowTo target)

/-- The expression is read, and no character of a name as anything but a letter. -/
theorem read_mentionPattern (source target : List Char) :
    read? (mentionPattern source target) = some (mentionExpression source target) := by
  have arrow_signs : signs (['\\', 's', '*', '-', '>', '\\', 's', '*'] ++ spelled target) =
      some (.blank :: .star :: .letter '-' :: .letter '>' :: .blank :: .star ::
        target.map .letter) := by
    simp [signs, signs_spelled_alone, isSpecial, isPlainOutside]
  have arrow_parts : parts true (.blank :: .star :: .letter '-' :: .letter '>' :: .blank ::
      .star :: target.map .letter) = some (arrowTo target) := by
    simp [parts, Sign.test?, parts_letters_alone, arrowTo, lettersOf, marginPattern]
  have source_signs := signs_spelled source
    (['\\', 's', '*', '-', '>', '\\', 's', '*'] ++ spelled target)
  rw [arrow_signs, Option.map_some] at source_signs
  have read : read? (mentionPattern source target) =
      (signs (spelled source ++ (['\\', 's', '*', '-', '>', '\\', 's', '*'] ++ spelled target)) >>=
        parts true).map sequence := rfl
  rw [read, source_signs, Option.bind_eq_bind, Option.bind_some, parts_letters (by simp),
    arrow_parts]
  rfl

private theorem startsIn_lettersOf (name : List Char) (later : List Expression) (text : List Char) :
    (sequence (lettersOf name ++ later)).startsIn text =
      (behind? name text).any (sequence later).startsIn := by
  induction name generalizing text with
  | nil => rfl
  | cons letter more ih =>
    cases text with
    | nil => exact startsIn_one_nil _ _
    | cons c rest =>
      have opened : lettersOf (letter :: more) ++ later =
          one (letterTest true letter) :: (lettersOf more ++ later) := rfl
      rw [opened, startsIn_one_cons, ih, behind?]
      simp only [letterTest, if_true]
      cases sameFold letter c <;> rfl

private theorem startsIn_margin (later : List Expression) (text : List Char) :
    (sequence (marginPattern :: later)).startsIn text =
      acrossBlanks (sequence later).startsIn text := by
  induction text with
  | nil => exact startsIn_many_nil true isBlank later
  | cons c rest ih =>
    rw [acrossBlanks, ← ih]
    exact startsIn_many_cons true isBlank later c rest

private theorem startsIn_target (target text : List Char) :
    (sequence (lettersOf target)).startsIn text = startsWithTarget target text := by
  have parts := startsIn_lettersOf target [] text
  rw [List.append_nil] at parts
  rw [parts, startsWithTarget]
  cases behind? target text with
  | none => rfl
  | some rest => exact startsIn_nothing rest

private theorem startsIn_arrow (target text : List Char) :
    (sequence (lettersOf ['-', '>'] ++ marginPattern :: lettersOf target)).startsIn text =
      startsWithArrow target text := by
  rw [startsIn_lettersOf]
  have elsewhere (other : ∀ rest, text ≠ '-' :: '>' :: rest) :
      startsWithArrow target text = false := by
    unfold startsWithArrow
    split
    · exact absurd rfl (other _)
    · rfl
  cases text with
  | nil => rfl
  | cons c later =>
    rw [behind?, sameFold_dash]
    by_cases dash : c = '-'
    · subst dash
      cases later with
      | nil => rfl
      | cons d rest =>
        rw [beq_self_eq_true, if_pos rfl, behind?, sameFold_angle]
        by_cases angle : d = '>'
        · subst angle
          rw [beq_self_eq_true, if_pos rfl, behind?, Option.any_some, startsIn_margin,
            startsWithArrow]
          congr 1
          funext rest
          exact startsIn_target target rest
        · rw [beq_false_of_ne angle, if_neg Bool.false_ne_true, elsewhere (by simp [angle])]
          rfl
    · rw [beq_false_of_ne dash, if_neg Bool.false_ne_true, elsewhere (by simp [dash])]
      rfl

private theorem startsIn_mentionExpression (source target text : List Char) :
    (mentionExpression source target).startsIn text = mentionedHere source target text := by
  rw [mentionExpression, startsIn_lettersOf, mentionedHere]
  cases behind? source text with
  | none => rfl
  | some rest =>
    rw [Option.any_some, arrowTo, startsIn_margin]
    dsimp only
    congr 1
    funext rest
    exact startsIn_arrow target rest

theorem foundIn_mentionExpression (content source target : List Char) :
    (mentionExpression source target).foundIn content = mentions content source target := by
  rw [foundIn, mentions]
  congr 1
  funext text
  exact startsIn_mentionExpression source target text

theorem Alike.split (alike : Alike (first ++ second) other) :
    ∃ front back, other = front ++ back ∧ Alike first front ∧ Alike second back := by
  rw [Alike, List.map_append] at alike
  obtain ⟨front, back, rfl, first_alike, second_alike⟩ := List.map_eq_append_iff.mp alike.symm
  exact ⟨front, back, rfl, first_alike.symm, second_alike.symm⟩

theorem Alike.blanks (alike : Alike text other) (blank : Blanks text) : Blanks other := by
  intro c member
  have folded : fold c ∈ text.map fold := by
    rw [alike]
    exact List.mem_map_of_mem member
  obtain ⟨d, present, same⟩ := List.mem_map.mp folded
  rw [← isBlank_fold, ← same, isBlank_fold]
  exact blank d present

theorem Alike.arrow (alike : Alike ('-' :: '>' :: rest) other) :
    ∃ behind, other = '-' :: '>' :: behind ∧ Alike rest behind := by
  obtain ⟨c, _, rfl, dash, more⟩ := List.map_eq_cons_iff.mp alike.symm
  obtain ⟨d, behind, rfl, angle, rest_alike⟩ := List.map_eq_cons_iff.mp more
  have dash_same : sameFold '-' c = true := beq_iff_eq.mpr dash.symm
  have angle_same : sameFold '>' d = true := beq_iff_eq.mpr angle.symm
  rw [sameFold_dash, beq_iff_eq] at dash_same
  rw [sameFold_angle, beq_iff_eq] at angle_same
  exact ⟨behind, by rw [dash_same, angle_same], rest_alike.symm⟩

theorem Pointing.alike (pointing : Pointing source target stretch) (same : Alike stretch other)
    (same_source : Alike source other_source) (same_target : Alike target other_target) :
    Pointing other_source other_target other := by
  obtain ⟨front, blanks, gap, back, rfl, front_alike, blank, gap_blank, back_alike⟩ := pointing
  obtain ⟨before, arrow, rfl, before_same, arrow_same⟩ := same.split
  obtain ⟨front', blanks', rfl, front_same, blanks_same⟩ := before_same.split
  obtain ⟨behind, rfl, behind_same⟩ := arrow_same.arrow
  obtain ⟨gap', back', rfl, gap_same, back_same⟩ := behind_same.split
  exact ⟨front', blanks', gap', back', rfl,
    (front_same.symm.trans front_alike).trans same_source, blanks_same.blanks blank,
    gap_same.blanks gap_blank, (back_same.symm.trans back_alike).trans same_target⟩

theorem Mentioned.alike (mentioned : Mentioned content source target) (same : Alike content other)
    (same_source : Alike source other_source) (same_target : Alike target other_target) :
    Mentioned other other_source other_target := by
  obtain ⟨before, stretch, after, rfl, pointing⟩ := mentioned
  obtain ⟨front, after', rfl, front_same, _⟩ := same.split
  obtain ⟨before', stretch', rfl, _, stretch_same⟩ := front_same.split
  exact ⟨before', stretch', after', rfl, pointing.alike stretch_same same_source same_target⟩

theorem mentions_alike (same : Alike content other) (same_source : Alike source other_source)
    (same_target : Alike target other_target) :
    mentions content source target = mentions other other_source other_target := by
  rw [Bool.eq_iff_iff, mentions_iff, mentions_iff]
  constructor
  · intro mentioned
    exact mentioned.alike same same_source same_target
  · intro mentioned
    exact mentioned.alike same.symm same_source.symm same_target.symm

/-- A mention is found by the written expression, which reads well for all names. There is one exactly
if some part of the content is the one name, an arrow with blanks around it and the other name, up to
case; more text around the content takes it not away, and the case of letters does not count. -/
theorem mentions_literally (content source target : List Char) :
    read? (mentionPattern source target) = some (mentionExpression source target) ∧
    (mentionExpression source target).foundIn content = mentions content source target ∧
    (mentions content source target = true ↔ Mentioned content source target) ∧
    (∀ before after, mentions content source target = true →
      mentions (before ++ content ++ after) source target = true) ∧
    ∀ other other_source other_target, Alike content other → Alike source other_source →
      Alike target other_target →
      mentions content source target = mentions other other_source other_target := by
  refine ⟨read_mentionPattern source target, foundIn_mentionExpression content source target,
    mentions_iff, ?_, ?_⟩
  · intro before after mentioned
    exact mentions_iff.mpr ((mentions_iff.mp mentioned).around before after)
  · intro other other_source other_target
    exact mentions_alike

/-- Names with special characters, in a text with other capitals; the Kelvin sign is one for a k. -/
theorem mentions_literally_kelvin :
    Alike "see c++ (k) ->\n[x]*".toList "see C++ (\u212A) ->\n[X]*".toList ∧
    mentions "see C++ (\u212A) ->\n[X]*".toList "c++ (k)".toList "[x]*".toList = true := by
  have alike : Alike "see c++ (k) ->\n[x]*".toList "see C++ (\u212A) ->\n[X]*".toList := by
    unfold Alike
    decide +kernel
  have mentioned :
      mentions "see c++ (k) ->\n[x]*".toList "c++ (k)".toList "[x]*".toList = true := by
    decide +kernel
  obtain ⟨_, _, _, _, other_case⟩ :=
    mentions_literally "see c++ (k) ->\n[x]*".toList "c++ (k)".toList "[x]*".toList
  exact ⟨alike, (other_case _ _ _ alike rfl rfl).symm.trans mentioned⟩

end DevlogGraph.Ledger
