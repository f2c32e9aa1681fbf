import DevlogGraph.Proofs.Text.Blank
import DevlogGraph.Proofs.Text.Span
import DevlogGraph.Text.LetterCase

/-! Lower-casing reaches its end in one step: it yields characters that it would leave alone, and it
neither makes nor removes a blank. -/
namespace DevlogGraph.Text

/-- Lower-casing leaves the character alone wherever it stands. -/
structure Lowered (c : Char) : Prop where
  not_sigma : c ≠ 'Σ'
  fixed : lowerChar c = [c]

private def dottedSpan : Nat × Nat := ('İ'.toNat, 'İ'.toNat)

private def surrogateSpan : Nat × Nat := (0xD800, 0xDFFF)

/-- What the table has to satisfy, run by run. -/
private def lowersOnce (run : Shift) : Bool :=
  (lowerShifts.all fun other => run.clears other) &&
    (blankSpans.all fun span => run.clears (spanShift span) && (spanShift span).clears run) &&
    run.clears (spanShift dottedSpan) && run.clears (spanShift surrogateSpan) &&
    Nat.blt (run.moved run.last) 0x110000

private theorem lowerShifts_once : lowerShifts.all lowersOnce = true := by decide +kernel

private theorem lowersOnce_of_mem (member : run ∈ lowerShifts) :
    (∀ other ∈ lowerShifts, run.clears other = true) ∧
    (∀ span ∈ blankSpans, run.clears (spanShift span) = true ∧
      (spanShift span).clears run = true) ∧
    run.clears (spanShift dottedSpan) = true ∧ run.clears (spanShift surrogateSpan) = true ∧
    run.moved run.last < 0x110000 := by
  have checked := List.all_eq_true.mp lowerShifts_once run member
  simp only [lowersOnce, Bool.and_eq_true, List.all_eq_true, Nat.blt_eq] at checked
  obtain ⟨⟨⟨⟨shifts, blanks⟩, dotted⟩, surrogates⟩, bounded⟩ := checked
  exact ⟨shifts, blanks, dotted, surrogates, bounded⟩

private theorem moved_le {run : Shift} (covered : run.covers point = true) :
    run.moved point ≤ run.moved run.last := by
  obtain ⟨_, high, _⟩ := (Shift.covers_iff run point).mp covered
  unfold Shift.moved
  omega

private theorem isValidChar_of_moved (member : run ∈ lowerShifts)
    (covered : run.covers point = true) : (run.moved point).isValidChar := by
  obtain ⟨_, _, _, surrogates, bounded⟩ := lowersOnce_of_mem member
  have bound := moved_le covered
  have apart := Shift.uncovered_of_clears surrogates covered
  rw [Bool.eq_false_iff, ne_eq, spanShift_covers] at apart
  simp only [surrogateSpan] at apart
  unfold Nat.isValidChar
  omega

private theorem lowerChar_of_ne (plain : c ≠ 'İ') :
    lowerChar c = [Char.ofNat (shifted lowerShifts c.toNat)] :=
  if_neg plain

/-- Where the table leads, there is a character. -/
theorem lowerChar_shifted (plain : c ≠ 'İ') :
    ∃ d, lowerChar c = [d] ∧ d.toNat = shifted lowerShifts c.toNat := by
  refine ⟨_, lowerChar_of_ne plain, ?_⟩
  rcases shifted_cases lowerShifts c.toNat with same | ⟨run, member, covered, moved⟩
  · rw [same, Char.ofNat_toNat]
  · rw [moved, toNat_ofNat (isValidChar_of_moved member covered)]

/-- One character, lower-cased: it stays, or it becomes one that the table leads no further and
that is neither a capital with a rule of its own nor a blank. -/
private theorem lowerChar_cases (plain : c ≠ 'İ') :
    lowerChar c = [c] ∨ ∃ d, lowerChar c = [d] ∧ Lowered d ∧ isBlank c = false ∧
      isBlank d = false := by
  rw [lowerChar_of_ne plain]
  rcases shifted_cases lowerShifts c.toNat with same | ⟨run, member, covered, moved⟩
  · left
    rw [same, Char.ofNat_toNat]
  · right
    obtain ⟨shifts, blanks, dotted, _, _⟩ := lowersOnce_of_mem member
    have fixed : shifted lowerShifts (run.moved c.toNat) = run.moved c.toNat := by
      apply shifted_of_uncovered
      intro other present
      exact Shift.uncovered_of_clears (shifts other present) covered
    have code : (Char.ofNat (run.moved c.toNat)).toNat = run.moved c.toNat :=
      toNat_ofNat (isValidChar_of_moved member covered)
    refine ⟨Char.ofNat (run.moved c.toNat), by rw [moved], ⟨?_, ?_⟩, ?_, ?_⟩
    · intro sigma
      rw [sigma] at code
      rw [← code] at fixed
      revert fixed
      decide +kernel
    · have other : Char.ofNat (run.moved c.toNat) ≠ 'İ' := by
        intro same
        have apart := Shift.uncovered_of_clears dotted covered
        rw [← code, same] at apart
        revert apart
        decide
      rw [lowerChar_of_ne other, code, fixed]
    · rw [Bool.eq_false_iff]
      intro blank
      obtain ⟨span, present, bounds⟩ := mem_of_inSpans blank
      have kept := Shift.uncovered_of_clears (blanks span present).2
        ((spanShift_covers span _).mpr bounds)
      have same : (spanShift span).moved c.toNat = c.toNat := by simp [Shift.moved, spanShift]
      rw [same, covered] at kept
      cases kept
    · rw [Bool.eq_false_iff]
      intro blank
      obtain ⟨span, present, bounds⟩ := mem_of_inSpans blank
      have apart := Shift.uncovered_of_clears (blanks span present).1 covered
      rw [← code, (spanShift_covers span _).mpr bounds] at apart
      cases apart

/-- The characters of the images that no run gives. -/
private theorem lowered_special :
    ∀ d ∈ ['i', '\u0307', 'ς', 'σ'], Lowered d ∧ isBlank d = false := by
  intro d member
  have choices : d = 'i' ∨ d = '\u0307' ∨ d = 'ς' ∨ d = 'σ' := by simpa using member
  rcases choices with rfl | rfl | rfl | rfl <;> exact ⟨⟨by decide, by decide +kernel⟩, by decide⟩

private theorem lowered_dotted : ∀ d ∈ lowerChar 'İ', Lowered d ∧ isBlank d = false := by
  intro d member
  have choices : d = 'i' ∨ d = '\u0307' := by simpa [lowerChar] using member
  apply lowered_special
  rcases choices with rfl | rfl <;> simp

private theorem lowered_of_mem_lowerChar (capital : c ≠ 'Σ') (member : d ∈ lowerChar c) :
    Lowered d := by
  by_cases dotted : c = 'İ'
  · subst dotted
    exact (lowered_dotted d member).1
  · rcases lowerChar_cases dotted with same | ⟨other, image, lowered, _, _⟩
    · have fixed : d = c := by simpa [same] using member
      subst fixed
      exact ⟨capital, same⟩
    · have fixed : d = other := by simpa [image] using member
      rwa [fixed]

private theorem isBlank_of_mem_lowerChar (member : d ∈ lowerChar c) : isBlank d = isBlank c := by
  by_cases dotted : c = 'İ'
  · subst dotted
    rw [(lowered_dotted d member).2]
    decide
  · rcases lowerChar_cases dotted with same | ⟨other, image, _, before, after⟩
    · have fixed : d = c := by simpa [same] using member
      rw [fixed]
    · have fixed : d = other := by simpa [image] using member
      rw [fixed, before, after]

private theorem lowerChar_of_blank (blank : isBlank c = true) : lowerChar c = [c] := by
  have plain : c ≠ 'İ' := by
    rintro rfl
    revert blank
    decide
  rcases lowerChar_cases plain with same | ⟨_, _, _, before, _⟩
  · exact same
  · rw [blank] at before
    cases before

private theorem lowerChar_ne_nil (c : Char) : lowerChar c ≠ [] := by
  unfold lowerChar
  split <;> simp

/-- The form of one character between those before it, nearest first, and those after it. -/
def lowerBetween (before : List Char) (c : Char) (after : List Char) : List Char :=
  if c = 'Σ' then [if isFinalSigma before after then 'ς' else 'σ'] else lowerChar c

theorem lowercaseAfter_cons (before : List Char) (c : Char) (after : List Char) :
    lowercaseAfter before (c :: after) =
      lowerBetween before c after ++ lowercaseAfter (c :: before) after := rfl

private theorem lowerBetween_ne_nil (before : List Char) (c : Char) (after : List Char) :
    lowerBetween before c after ≠ [] := by
  unfold lowerBetween
  split
  · simp
  · exact lowerChar_ne_nil c

theorem lowercase_ne_nil (nonempty : text ≠ []) : lowercase text ≠ [] := by
  cases text with
  | nil => exact absurd rfl nonempty
  | cons c after =>
    rw [lowercase, lowercaseAfter_cons]
    exact List.append_ne_nil_of_left_ne_nil (lowerBetween_ne_nil [] c after) _

/-- Lower-casing never makes a text shorter. -/
theorem length_le_lowercase (text : List Char) : text.length ≤ (lowercase text).length := by
  have bound (before after : List Char) : after.length ≤ (lowercaseAfter before after).length := by
    induction after generalizing before with
    | nil => exact Nat.zero_le _
    | cons c later ih =>
      have some_form := List.length_pos_iff.mpr (lowerBetween_ne_nil before c later)
      have others := ih (c :: before)
      rw [lowercaseAfter_cons, List.length_append, List.length_cons]
      omega
  exact bound [] text

private theorem lowered_of_mem_lowerBetween (member : d ∈ lowerBetween before c after) :
    Lowered d := by
  unfold lowerBetween at member
  split at member
  · rw [List.mem_singleton] at member
    subst member
    split
    · exact (lowered_special 'ς' (by simp)).1
    · exact (lowered_special 'σ' (by simp)).1
  · rename_i capital
    exact lowered_of_mem_lowerChar capital member

private theorem isBlank_of_mem_lowerBetween (member : d ∈ lowerBetween before c after) :
    isBlank d = isBlank c := by
  unfold lowerBetween at member
  split at member
  · rename_i capital
    rw [List.mem_singleton] at member
    subst member capital
    split <;> decide
  · exact isBlank_of_mem_lowerChar member

private theorem mem_lowercaseAfter (member : d ∈ lowercaseAfter before text) :
    ∃ earlier c later, c ∈ text ∧ d ∈ lowerBetween earlier c later := by
  induction text generalizing before with
  | nil => cases member
  | cons c after ih =>
    rw [lowercaseAfter_cons, List.mem_append] at member
    rcases member with here | there
    · exact ⟨before, c, after, by simp, here⟩
    · obtain ⟨earlier, other, later, present, found⟩ := ih there
      exact ⟨earlier, other, later, by simp [present], found⟩

theorem lowered_of_mem_lowercase (member : d ∈ lowercase text) : Lowered d := by
  obtain ⟨_, _, _, _, found⟩ := mem_lowercaseAfter member
  exact lowered_of_mem_lowerBetween found

/-- A blank of the lower-case text was one before. -/
theorem mem_of_blank_mem_lowercase (member : d ∈ lowercase text) (blank : isBlank d = true) :
    d ∈ text := by
  obtain ⟨_, c, _, present, found⟩ := mem_lowercaseAfter member
  have before : isBlank c = true := (isBlank_of_mem_lowerBetween found).symm.trans blank
  have plain : c ≠ 'Σ' := by
    rintro rfl
    revert before
    decide
  rw [lowerBetween, if_neg plain, lowerChar_of_blank before, List.mem_singleton] at found
  rwa [found]

private theorem lowercaseAfter_of_lowered (before : List Char) {text : List Char}
    (lowered : ∀ c ∈ text, Lowered c) : lowercaseAfter before text = text := by
  induction text generalizing before with
  | nil => rfl
  | cons c after ih =>
    have first := lowered c (by simp)
    rw [lowercaseAfter_cons, lowerBetween, if_neg first.not_sigma, first.fixed,
      ih _ fun d member => lowered d (by simp [member])]
    rfl

theorem lowercase_of_lowered {text : List Char} (lowered : ∀ c ∈ text, Lowered c) :
    lowercase text = text :=
  lowercaseAfter_of_lowered [] lowered

theorem lowercase_lowercase (text : List Char) : lowercase (lowercase text) = lowercase text :=
  lowercase_of_lowered fun _ member => lowered_of_mem_lowercase member

private theorem lowercaseAfter_head (before text : List Char) :
    (lowercaseAfter before text).head?.any isBlank = text.head?.any isBlank := by
  cases text with
  | nil => rfl
  | cons c after =>
    rw [lowercaseAfter_cons]
    cases image : lowerBetween before c after with
    | nil => exact absurd image (lowerBetween_ne_nil before c after)
    | cons d rest =>
      have same := isBlank_of_mem_lowerBetween (image ▸ List.mem_cons_self)
      simpa using same

private theorem lowercaseAfter_last (before text : List Char) :
    (lowercaseAfter before text).getLast?.any isBlank = text.getLast?.any isBlank := by
  induction text generalizing before with
  | nil => rfl
  | cons c after ih =>
    rw [lowercaseAfter_cons, List.getLast?_append]
    cases after with
    | nil =>
      cases image : lowerBetween before c [] with
      | nil => exact absurd image (lowerBetween_ne_nil before c [])
      | cons d rest =>
        have last : (d :: rest).getLast (by simp) ∈ lowerBetween before c [] := by
          rw [image]
          exact List.getLast_mem _
        have same := isBlank_of_mem_lowerBetween last
        simpa [lowercaseAfter, List.getLast?_eq_some_getLast] using same
    | cons next rest =>
      have later := ih (c :: before)
      cases final : (lowercaseAfter (c :: before) (next :: rest)).getLast? with
      | none =>
        rw [List.getLast?_eq_none_iff, lowercaseAfter_cons, List.append_eq_nil_iff] at final
        exact absurd final.1 (lowerBetween_ne_nil _ _ _)
      | some d =>
        rw [final] at later
        simpa using later

/-- What is trimmed stays so in lower case. -/
theorem Trimmed.lowercase {text : List Char} (trimmed : Trimmed text) :
    Trimmed (lowercase text) where
  head := (lowercaseAfter_head [] text).trans trimmed.head
  last := (lowercaseAfter_last [] text).trans trimmed.last

-- Blanks around a text stay as they are, and have no part in the case of its letters: a sigma in front
-- of them is at the end of a word just as in front of nothing.

private theorem lowered_of_blank (blank : isBlank c = true) : Lowered c where
  not_sigma := by
    rintro rfl
    revert blank
    decide
  fixed := lowerChar_of_blank blank

private theorem casedNext_append_blanks {blanks : List Char}
    (blank : ∀ c ∈ blanks, isBlank c = true)
    (text : List Char) : casedNext (text ++ blanks) = casedNext text := by
  have ignorable_apart : apart blankSpans caseIgnorableSpans = true := by decide +kernel
  have cased_apart : apart blankSpans casedSpans = true := by decide +kernel
  induction text with
  | nil =>
    cases blanks with
    | nil => rfl
    | cons c later =>
      have here := blank c List.mem_cons_self
      have counted : isCaseIgnorable c = false := inSpans_of_apart ignorable_apart here
      have caseless : isCased c = false := inSpans_of_apart cased_apart here
      simp [casedNext, counted, caseless]
  | cons c rest ih =>
    unfold casedNext at ih ⊢
    rw [List.cons_append, List.dropWhile_cons, List.dropWhile_cons]
    cases isCaseIgnorable c with
    | true => exact ih
    | false => rfl

section Blanks

variable {front back : List Char} (front_blank : ∀ c ∈ front, isBlank c = true)
  (back_blank : ∀ c ∈ back, isBlank c = true)
include front_blank

private theorem lowercaseAfter_blanks_append (before text : List Char) :
    lowercaseAfter before (front ++ text) =
      front ++ lowercaseAfter (front.reverse ++ before) text := by
  induction front generalizing before with
  | nil => rfl
  | cons c later ih =>
    obtain ⟨here, others⟩ := List.forall_mem_cons.mp front_blank
    have lowered := lowered_of_blank here
    rw [List.cons_append, lowercaseAfter_cons, lowerBetween, if_neg lowered.not_sigma, lowered.fixed,
      ih others, List.reverse_cons, List.append_assoc]
    rfl

include back_blank

private theorem lowercaseAfter_between (before text : List Char) :
    lowercaseAfter (before ++ front) (text ++ back) = lowercaseAfter before text ++ back := by
  induction text generalizing before with
  | nil =>
    exact lowercaseAfter_of_lowered _ fun c member => lowered_of_blank (back_blank c member)
  | cons c after ih =>
    have same : lowerBetween (before ++ front) c (after ++ back) = lowerBetween before c after := by
      rw [lowerBetween, lowerBetween, isFinalSigma, isFinalSigma,
        casedNext_append_blanks front_blank, casedNext_append_blanks back_blank]
    have onward := ih (c :: before)
    rw [List.cons_append] at onward
    rw [List.cons_append, lowercaseAfter_cons, lowercaseAfter_cons, same, onward,
      List.append_assoc]

theorem lowercase_between (text : List Char) :
    lowercase (front ++ text ++ back) = front ++ lowercase text ++ back := by
  have reversed : ∀ c ∈ front.reverse, isBlank c = true := by simpa using front_blank
  have inner := lowercaseAfter_between reversed back_blank [] text
  rw [List.nil_append] at inner
  rw [lowercase, List.append_assoc, lowercaseAfter_blanks_append front_blank, List.append_nil,
    inner, List.append_assoc]
  rfl

end Blanks

/-- It does not matter which is done first. -/
theorem trim_lowercase (text : List Char) : trim (lowercase text) = lowercase (trim text) := by
  obtain ⟨front, back, split, front_blank, back_blank⟩ := trim_split text
  have parts := lowercase_between front_blank back_blank (trim text)
  rw [← split] at parts
  rw [parts, trim_between front_blank (trim_trimmed text).lowercase back_blank]

end DevlogGraph.Text
