import DevlogGraph.Decimal.Digits
import DevlogGraph.Proofs.Text.Span
import DevlogGraph.Text.Blank

/-! Numbers that are written in digits, with zeros in front or without: which characters they are
written with, and what the digits stand for. -/
namespace DevlogGraph.Decimal

theorem isDigit_bounds (digit : isDigit c = true) : 48 ≤ c.toNat ∧ c.toNat ≤ 57 := by
  rw [isDigit, Bool.and_eq_true, decide_eq_true_eq, decide_eq_true_eq] at digit
  exact digit

theorem isBlank_of_isDigit (digit : isDigit c = true) : Text.isBlank c = false := by
  have separate : Text.apart [(48, 57)] Text.blankSpans = true := by decide
  obtain ⟨low, high⟩ := isDigit_bounds digit
  refine Text.inSpans_of_apart separate ?_
  simp only [Text.inSpans, high, decide_true, Bool.true_or]
  rw [if_neg (by omega)]

theorem isDigit_of_mem_digits (member : c ∈ digits n) : isDigit c = true := by
  have digit := Nat.isDigit_of_mem_toDigits (by decide) (by decide) member
  simpa [isDigit, Char.isDigit, Char.le_def] using digit

/-- Only the number zero starts with a zero. -/
private theorem digits_start (n : Nat) : ∃ c more, digits n = c :: more ∧ (c = '0' → n = 0) := by
  induction n using Nat.strongRecOn with
  | ind n ih =>
    by_cases small : n < 10
    · have table : ∀ n < 10, n.digitChar = '0' → n = 0 := by decide
      exact ⟨n.digitChar, [], Nat.toDigits_of_lt_base small, table n small⟩
    · obtain ⟨c, more, split, zero⟩ := ih (n / 10) (by omega)
      refine ⟨c, more ++ [(n % 10).digitChar], ?_, fun same => ?_⟩
      · rw [digits, Nat.toDigits_of_base_le (by decide) (by omega), ← digits, split, List.cons_append]
      · have := zero same
        omega

theorem digits_shape (n : Nat) : ∃ c more, digits n = c :: more ∧ isDigit c = true ∧
    (∀ d ∈ more, isDigit d = true) ∧ (c = '0' → more = []) := by
  obtain ⟨c, more, split, zero⟩ := digits_start n
  refine ⟨c, more, split, isDigit_of_mem_digits (split ▸ List.mem_cons_self), fun d member =>
    isDigit_of_mem_digits (split ▸ List.mem_cons_of_mem c member), fun same => ?_⟩
  rw [zero same] at split
  exact (List.cons.inj split).2.symm

private theorem ofDigits_append (front back : List Char) : ofDigits (front ++ back) =
    back.foldl (fun total c => total * 10 + digitValue c) (ofDigits front) := by
  rw [ofDigits, List.foldl_append, ofDigits]

theorem ofDigits_digits (n : Nat) : ofDigits (digits n) = n := by
  have read : Nat.ofDigitChars 10 (Nat.toDigits 10 n) 0 = n := Nat.ofDigitChars_ten_toDigits
  rw [Nat.ofDigitChars] at read
  rw [ofDigits, digits]
  refine Eq.trans ?_ read
  congr 1
  funext total c
  rw [Nat.mul_comm]
  rfl

private theorem ofDigits_zeros (count : Nat) : ofDigits (List.replicate count '0') = 0 := by
  induction count with
  | zero => rfl
  | succ count ih => exact ih

theorem ofDigits_padded (width n : Nat) : ofDigits (padded width n) = n := by
  rw [padded, ofDigits_append, ofDigits_zeros]
  exact ofDigits_digits n

private theorem digitValue_le (digit : isDigit c = true) : digitValue c ≤ 9 := by
  obtain ⟨_, high⟩ := isDigit_bounds digit
  have zero : '0'.toNat = 48 := rfl
  rw [digitValue, zero]
  omega

/-- Digits behind a number make less of it than one more zero to each would make of its successor. -/
private theorem foldl_digits_lt {text : List Char} (all_digits : ∀ c ∈ text, isDigit c = true)
    (start : Nat) :
    text.foldl (fun total c => total * 10 + digitValue c) start <
      (start + 1) * Nat.pow 10 text.length := by
  induction text generalizing start with
  | nil => exact Nat.lt_of_lt_of_eq (Nat.lt_succ_self start) (Nat.mul_one _).symm
  | cons c rest ih =>
    obtain ⟨here, others⟩ := List.forall_mem_cons.mp all_digits
    have size := digitValue_le here
    have more : start * 10 + digitValue c + 1 ≤ (start + 1) * 10 := by omega
    have power : Nat.pow 10 (rest.length + 1) = 10 * Nat.pow 10 rest.length := Nat.pow_succ'
    rw [List.foldl_cons, List.length_cons, power, ← Nat.mul_assoc]
    exact Nat.lt_of_lt_of_le (ih others _) (Nat.mul_le_mul_right _ more)

theorem ofDigits_lt {text : List Char} (all_digits : ∀ c ∈ text, isDigit c = true) :
    ofDigits text < Nat.pow 10 text.length := by
  have bound := foldl_digits_lt all_digits 0
  rwa [Nat.zero_add, Nat.one_mul] at bound

theorem isDigit_of_mem_padded (member : c ∈ padded width n) : isDigit c = true := by
  rw [padded, List.mem_append] at member
  rcases member with zero | digit
  · rw [List.eq_of_mem_replicate zero]
    decide
  · exact isDigit_of_mem_digits digit

theorem padded_ne_nil (width n : Nat) : padded width n ≠ [] := by
  obtain ⟨c, more, split, _⟩ := digits_start n
  simp [padded, split]

theorem length_padded (fits : n < Nat.pow 10 width) (some_width : 0 < width) :
    (padded width n).length = width := by
  have short : (digits n).length ≤ width :=
    (Nat.length_toDigits_le_iff (by decide) some_width).mpr fits
  rw [padded, List.length_append, List.length_replicate]
  omega

end DevlogGraph.Decimal
