import Mathlib

/-! The order of scores. A NaN is neither above nor below anything; all other scores stand in a
line. -/
namespace DevlogGraph.Score

open Float.Model (UnpackedFloat)

/-- The place of a score in the line; that of a NaN says nothing. -/
def place : UnpackedFloat → ℤ ×ₗ ℤ ×ₗ ℤ
  | .infinity .negative => toLex (-2, toLex (0, 0))
  | .finite .negative mantissa exponent _ => toLex (-1, toLex (-exponent, -mantissa))
  | .zero _ => toLex (0, toLex (0, 0))
  | .finite .positive mantissa exponent _ => toLex (1, toLex (exponent, mantissa))
  | .infinity .positive => toLex (2, toLex (0, 0))
  | .notANumber => toLex (0, toLex (0, 0))

private theorem then_eq_lt_iff {e f : ℤ} {m n : ℕ} :
    (compare e f).then (compare m n) = .lt ↔ e < f ∨ e = f ∧ m < n := by
  rw [Ordering.then_eq_lt, compare_lt_iff_lt, compare_eq_iff_eq, compare_lt_iff_lt]

private theorem then_eq_gt_iff {e f : ℤ} {m n : ℕ} :
    (compare e f).then (compare m n) = .gt ↔ f < e ∨ e = f ∧ n < m := by
  rw [Ordering.then_eq_gt, compare_gt_iff_gt, compare_eq_iff_eq, compare_gt_iff_gt]

private theorem negative_lt_positive :
    compare UnpackedFloat.Sign.negative UnpackedFloat.Sign.positive = .lt := rfl

theorem unpacked_lt_iff (a b : UnpackedFloat) :
    a.lt b = true ↔ a.isNaN = false ∧ b.isNaN = false ∧ place a < place b := by
  rcases a with (_ | _) | _ | _ | ⟨_ | _, m, e, _⟩ <;>
    rcases b with (_ | _) | _ | _ | ⟨_ | _, n, f, _⟩ <;>
    simp [UnpackedFloat.lt, UnpackedFloat.compare, UnpackedFloat.isNaN, place,
      Prod.Lex.toLex_lt_toLex, then_eq_lt_iff, then_eq_gt_iff, negative_lt_positive]

theorem lt_iff_place {a b : Float} : a < b ↔ a.isNaN = false ∧ b.isNaN = false ∧
    place a.toModel.unpack < place b.toModel.unpack := by
  have unpacked : a < b ↔ a.toModel.unpack.lt b.toModel.unpack = true := decide_eq_true_iff
  rw [unpacked, unpacked_lt_iff]
  rfl

theorem isNaN_of_lt {a b : Float} (below : a < b) : a.isNaN = false ∧ b.isNaN = false :=
  ⟨(lt_iff_place.mp below).1, (lt_iff_place.mp below).2.1⟩

theorem lt_trans {a b c : Float} (first : a < b) (second : b < c) : a < c := by
  rw [lt_iff_place] at first second ⊢
  exact ⟨first.1, second.2.1, first.2.2.trans second.2.2⟩

/-- What is not above a score is below all that the score is below, unless it is a NaN. -/
theorem lt_of_not_lt {a b c : Float} (not_above : ¬ a < c) (below : a < b)
    (number : c.isNaN = false) : c < b := by
  rw [lt_iff_place] at not_above below ⊢
  refine ⟨number, below.2.1, lt_of_le_of_lt ?_ below.2.2⟩
  exact not_lt.mp fun above => not_above ⟨below.1, number, above⟩

end DevlogGraph.Score
