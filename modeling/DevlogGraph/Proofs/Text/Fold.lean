import DevlogGraph.Proofs.Text.LetterCase
import DevlogGraph.Text.Fold

/-! Folding and lower-casing. Each character folds as its lower-case form does, except the dotted
capital I: that is two characters in lower case, and it folds to itself. -/
namespace DevlogGraph.Text

/-- The blanks and the signs of an arrow. -/
private def caselessSpans : List (Nat × Nat) :=
  ('-'.toNat, '-'.toNat) :: ('>'.toNat, '>'.toNat) :: blankSpans

private theorem caselessSpans_apart : (foldShifts.all fun run => caselessSpans.all fun span =>
    run.clears (spanShift span) && (spanShift span).clears run) = true := by
  decide +kernel

private theorem clears_caseless (member : run ∈ foldShifts) (present : span ∈ caselessSpans) :
    run.clears (spanShift span) = true ∧ (spanShift span).clears run = true := by
  have checked := List.all_eq_true.mp
    (List.all_eq_true.mp caselessSpans_apart run member) span present
  rwa [Bool.and_eq_true] at checked

private def Caseless (c : Char) : Prop :=
  ∃ span ∈ caselessSpans, span.1 ≤ c.toNat ∧ c.toNat ≤ span.2

private theorem caseless_of_blank (blank : isBlank c = true) : Caseless c := by
  obtain ⟨span, member, bounds⟩ := mem_of_inSpans blank
  exact ⟨span, by simp [caselessSpans, member], bounds⟩

private theorem Caseless.fold (caseless : Caseless c) : fold c = c := by
  obtain ⟨span, member, bounds⟩ := caseless
  have kept : shifted foldShifts c.toNat = c.toNat :=
    shifted_of_span (fun run present => (clears_caseless present member).2) bounds
  rw [Text.fold, kept, Char.ofNat_toNat]

/-- No other character folds to one of them. -/
private theorem fold_eq_self_of_caseless (caseless : Caseless (fold c)) : fold c = c := by
  obtain ⟨span, member, bounds⟩ := caseless
  rcases shifted_cases foldShifts c.toNat with same | ⟨run, present, covered, moved⟩
  · rw [fold, same, Char.ofNat_toNat]
  · have apart := Shift.uncovered_of_clears (clears_caseless present member).1 covered
    rw [fold, moved] at bounds
    by_cases valid : (run.moved c.toNat).isValidChar
    · rw [toNat_ofNat valid] at bounds
      rw [(spanShift_covers span _).mpr bounds] at apart
      cases apart
    · -- where the run leaves the characters, the folded one is the first of all
      have positive : ∀ span ∈ caselessSpans, 0 < span.1 := by decide
      have first : (Char.ofNat (run.moved c.toNat)).toNat = 0 := by
        rw [Char.ofNat, dif_neg valid]
        rfl
      have low := positive span member
      omega

/-- Case folding leaves blanks alone. -/
theorem fold_of_blank (blank : isBlank c = true) : fold c = c :=
  (caseless_of_blank blank).fold

/-- Nothing but a blank folds to a blank. -/
theorem isBlank_fold (c : Char) : isBlank (fold c) = isBlank c := by
  cases blank : isBlank c with
  | true => rw [fold_of_blank blank, blank]
  | false =>
    rw [Bool.eq_false_iff]
    intro hit
    rw [fold_eq_self_of_caseless (caseless_of_blank hit), blank] at hit
    cases hit

private theorem Caseless.sameFold {d : Char} (caseless : Caseless d) (c : Char) :
    sameFold d c = (c == d) := by
  rw [Text.sameFold, caseless.fold, Bool.eq_iff_iff, beq_iff_eq, beq_iff_eq]
  constructor
  · intro folded
    rw [folded] at caseless
    rw [folded, fold_eq_self_of_caseless caseless]
  · rintro rfl
    exact caseless.fold.symm

theorem sameFold_dash (c : Char) : sameFold '-' c = (c == '-') :=
  Caseless.sameFold ⟨_, List.mem_cons_self, Nat.le_refl _, Nat.le_refl _⟩ c

theorem sameFold_angle (c : Char) : sameFold '>' c = (c == '>') :=
  Caseless.sameFold ⟨_, List.mem_cons_of_mem _ List.mem_cons_self, Nat.le_refl _, Nat.le_refl _⟩ c

/-- No other character folds to a line feed. -/
theorem eq_feed_of_fold (folded : fold c = '\n') : c = '\n' := by
  have blank : isBlank c = true := by
    rw [← isBlank_fold, folded]
    decide
  rwa [fold_of_blank blank] at folded

private theorem foldShifts_ascending : ascending foldShifts = true := by decide +kernel

private theorem lowerShifts_settled : (lowerShifts.all fun run => settles foldShifts run ||
    (decide (0 ≤ run.first + run.distance) && settles foldShifts run.back)) = true := by
  decide +kernel

/-- A character and its lower-case form fold alike. -/
private theorem fold_lowerChar (plain : c ≠ 'İ') : (lowerChar c).map fold = [fold c] := by
  obtain ⟨d, image, code⟩ := lowerChar_shifted plain
  rw [image, List.map_singleton, fold, code, fold]
  rcases shifted_cases lowerShifts c.toNat with same | ⟨run, member, covered, moved⟩
  · rw [same]
  · have settled := List.all_eq_true.mp lowerShifts_settled run member
    rw [moved, shifted_moved foldShifts_ascending settled covered]

private theorem fold_lowerBetween (plain : c ≠ 'İ') (before after : List Char) :
    (lowerBetween before c after).map fold = [fold c] := by
  unfold lowerBetween
  split
  · rename_i capital
    subst capital
    split <;> decide +kernel
  · exact fold_lowerChar plain

theorem lowerBetween_dotted (before after : List Char) :
    lowerBetween before 'İ' after = ['i', '\u0307'] := rfl

/-- Lower-casing goes on behind a part of the text, which folds as before if it has no dotted I. -/
theorem lowercaseAfter_append (before text more : List Char) :
    ∃ front, lowercaseAfter before (text ++ more) =
        front ++ lowercaseAfter (text.reverse ++ before) more ∧
      ('İ' ∉ text → front.map fold = text.map fold) := by
  induction text generalizing before with
  | nil => exact ⟨[], rfl, fun _ => rfl⟩
  | cons c after ih =>
    obtain ⟨front, onward, alike⟩ := ih (c :: before)
    refine ⟨lowerBetween before c (after ++ more) ++ front, ?_, ?_⟩
    · rw [List.cons_append, lowercaseAfter_cons, onward]
      simp
    · intro plain
      rw [List.mem_cons, not_or] at plain
      rw [List.map_append, fold_lowerBetween (Ne.symm plain.1), alike plain.2, List.map_cons,
        List.singleton_append]

theorem map_fold_lowercaseAfter (plain : 'İ' ∉ text) (before : List Char) :
    (lowercaseAfter before text).map fold = text.map fold := by
  obtain ⟨front, whole, alike⟩ := lowercaseAfter_append before text []
  rw [List.append_nil, lowercaseAfter, List.append_nil] at whole
  rw [whole, alike plain]

theorem map_fold_lowercase (plain : 'İ' ∉ text) : (lowercase text).map fold = text.map fold :=
  map_fold_lowercaseAfter plain []

end DevlogGraph.Text
