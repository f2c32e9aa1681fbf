import Mathlib.Data.Nat.Digits.Defs
import DevlogGraph.Decimal.Digits

/-! Numbers that are read from decimal digits: what may be written, and what it stands for. -/
namespace DevlogGraph.Decimal

/-- Decimal digits that stand for the number, perhaps behind a plus sign. -/
def Numeral (value : String) (number : Nat) : Prop :=
  ∃ sign digits, value.toList = sign ++ digits ∧ (sign = [] ∨ sign = ['+']) ∧ digits ≠ [] ∧
    (∀ c ∈ digits, c.isDigit = true) ∧ number = Nat.ofDigits 10 (digits.reverse.map digitValue)

private theorem isDigit_eq (c : Char) : isDigit c = c.isDigit := by
  simp only [isDigit, Char.isDigit, Char.le_def]

private theorem ofDigits_eq (digits : List Char) :
    ofDigits digits = Nat.ofDigits 10 (digits.reverse.map digitValue) := by
  rw [Nat.ofDigits_eq_foldr, List.foldr_map, List.foldr_reverse, ofDigits]
  congr 1
  funext total c
  simp [Nat.mul_comm, Nat.add_comm]

/-- A numeral without its sign. -/
private def unsigned : List Char → List Char
  | '+' :: rest => rest
  | rest => rest

private theorem unsigned_split (characters : List Char) : ∃ sign,
    characters = sign ++ unsigned characters ∧ (sign = [] ∨ sign = ['+']) := by
  unfold unsigned
  split
  · exact ⟨['+'], rfl, .inr rfl⟩
  · exact ⟨[], rfl, .inl rfl⟩

/-- No digit is a sign. -/
private theorem unsigned_append {sign digits : List Char} (signed : sign = [] ∨ sign = ['+'])
    (digital : ∀ c ∈ digits, c.isDigit = true) : unsigned (sign ++ digits) = digits := by
  rcases signed with rfl | rfl
  · unfold unsigned
    split
    · rename_i cut
      rw [List.nil_append] at cut
      have digit : '+'.isDigit = true := digital '+' (by simp [cut])
      cases digit
    · rfl
  · rfl

private theorem readWord_eq (value : String) : readWord value =
    if (unsigned value.toList).isEmpty || !(unsigned value.toList).all isDigit then none
    else if ofDigits (unsigned value.toList) < UInt64.size
    then some (UInt64.ofNat (ofDigits (unsigned value.toList))) else none := rfl

private theorem numeral_iff : Numeral value number ↔ unsigned value.toList ≠ [] ∧
    (∀ c ∈ unsigned value.toList, c.isDigit = true) ∧
      number = ofDigits (unsigned value.toList) := by
  constructor
  · rintro ⟨sign, digits, cut, signed, nonempty, digital, rfl⟩
    rw [cut, unsigned_append signed digital, ofDigits_eq]
    exact ⟨nonempty, digital, rfl⟩
  · rintro ⟨nonempty, digital, rfl⟩
    obtain ⟨sign, cut, signed⟩ := unsigned_split value.toList
    exact ⟨sign, _, cut, signed, nonempty, digital, ofDigits_eq _⟩

private theorem refused_iff (digits : List Char) :
    (digits.isEmpty || !digits.all isDigit) = true ↔
      ¬ (digits ≠ [] ∧ ∀ c ∈ digits, c.isDigit = true) := by
  rw [not_and_or, Bool.or_eq_true, List.isEmpty_iff, not_not, Bool.not_eq_true', ← Bool.not_eq_true,
    List.all_eq_true]
  simp only [isDigit_eq]

theorem readWord_eq_some_iff {word : UInt64} :
    readWord value = some word ↔ Numeral value word.toNat := by
  rw [readWord_eq, numeral_iff]
  constructor
  · intro read
    split at read
    · cases read
    · rename_i numeric
      split at read
      · rename_i bound
        cases read
        rw [refused_iff, not_not] at numeric
        exact ⟨numeric.1, numeric.2, UInt64.toNat_ofNat_of_lt bound⟩
      · cases read
  · rintro ⟨nonempty, digital, same⟩
    have accepted := mt (refused_iff _).mp (not_not.mpr ⟨nonempty, digital⟩)
    rw [if_neg accepted, if_pos (same ▸ word.toNat_lt), ← same,
      UInt64.ofNat_toNat]

theorem readWord_eq_none_iff :
    readWord value = none ↔ ∀ word : UInt64, ¬ Numeral value word.toNat := by
  rw [Option.eq_none_iff_forall_ne_some]
  exact forall_congr' fun word => not_congr readWord_eq_some_iff

end DevlogGraph.Decimal
