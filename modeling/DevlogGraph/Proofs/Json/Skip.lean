import DevlogGraph.Json.Skip
import DevlogGraph.Proofs.Json.Grammar

/-! A value that nobody asked for is passed over exactly: whatever it is, however it is written and
however deep it nests, reading goes on right behind it. -/
namespace DevlogGraph.Json

open Reader Decimal

theorem not_isDigit_of_mark (mark : c = ',' ∨ c = ']' ∨ c = '\x7d') : isDigit c = false := by
  rcases mark with rfl | rfl | rfl <;> decide

theorem Ends.not_digit (ends : Ends rest) : rest.head?.any isDigit = false := by
  cases rest with
  | nil => rfl
  | cons c more => exact not_isDigit_of_mark (ends c rfl)

theorem dropWhile_digits {more : List Char} (digit : ∀ d ∈ more, isDigit d = true)
    (stop : rest.head?.any isDigit = false) : (more ++ rest).dropWhile isDigit = rest := by
  rw [List.dropWhile_append_of_pos digit]
  cases rest with
  | nil => rfl
  | cons c after => exact List.dropWhile_cons_of_neg (by simpa using stop)

private theorem skipExponent_digits {size : List Char}
    (sign : front = [] ∨ front = ['+'] ∨ front = ['-']) (digits : Digits size) (ends : Ends rest) :
    skipExponent (front ++ size ++ rest) = .done () rest := by
  obtain ⟨nonempty, all_digits⟩ := digits
  cases size with
  | nil => exact absurd rfl nonempty
  | cons c later =>
    obtain ⟨digit, others⟩ := List.forall_mem_cons.mp all_digits
    have passed := dropWhile_digits others ends.not_digit
    have plus : c ≠ '+' := by rintro rfl; revert digit; decide
    have minus : c ≠ '-' := by rintro rfl; revert digit; decide
    rcases sign with rfl | rfl | rfl <;> simp [skipExponent, digit, passed, plus, minus]

/-- Neither a point nor an exponent stands behind a value. -/
private theorem skipFraction_of_ends (ends : Ends rest) : skipFraction rest = .done () rest := by
  cases rest with
  | nil => rfl
  | cons c more => rcases ends c rfl with rfl | rfl | rfl <;> rfl

theorem Exponent.stop (exponent : Exponent back) (ends : Ends rest) :
    (back ++ rest).head?.any isDigit = false := by
  cases exponent with
  | none => exact ends.not_digit
  | some mark _ _ =>
    simp only [isExponentMark, Bool.or_eq_true, beq_iff_eq] at mark
    rcases mark with rfl | rfl <;> rfl

private theorem skipFraction_exponent (exponent : Exponent back) (ends : Ends rest) :
    skipFraction (back ++ rest) = .done () rest := by
  cases exponent with
  | none => exact skipFraction_of_ends ends
  | @some c front size mark sign digits =>
    have point : c ≠ '.' := by rintro rfl; revert mark; decide
    rw [List.cons_append, skipFraction]
    · rw [if_pos mark, skipExponent_digits sign digits ends]
    · exact fun same => point same

private theorem skipFraction_fraction (fraction : Fraction middle) (exponent : Exponent back)
    (ends : Ends rest) : skipFraction (middle ++ (back ++ rest)) = .done () rest := by
  cases fraction with
  | none => exact skipFraction_exponent exponent ends
  | @some places digits =>
    have passed := dropWhile_digits digits.digits (exponent.stop ends)
    have further := skipFraction_exponent exponent ends
    obtain ⟨nonempty, all_digits⟩ := digits
    cases places with
    | nil => exact absurd rfl nonempty
    | cons d later =>
      have digit := all_digits d List.mem_cons_self
      simp only [List.cons_append] at passed ⊢
      rw [skipFraction, if_neg (by simp [digit]), passed]
      cases exponent with
      | none =>
        cases rest with
        | nil => rfl
        | cons c more => rcases ends c rfl with rfl | rfl | rfl <;> rfl
      | some mark sign digits =>
        rw [List.cons_append]
        dsimp only
        rw [if_pos mark, skipExponent_digits sign digits ends]

private theorem skipNumber_parts (whole : Whole front) (fraction : Fraction middle)
    (exponent : Exponent back)
    (ends : Ends rest) : skipNumber (front ++ (middle ++ (back ++ rest))) = .done () rest := by
  have further := skipFraction_fraction fraction exponent ends
  have stop : (middle ++ (back ++ rest)).head?.any isDigit = false := by
    cases fraction with
    | none => exact exponent.stop ends
    | some _ => rfl
  cases whole with
  | zero =>
    rw [List.singleton_append, skipNumber, if_neg (Bool.eq_false_iff.mp stop), further]
  | more digit leading others =>
    rw [List.cons_append, skipNumber]
    · rw [if_pos digit, dropWhile_digits others stop, further]
    · exact fun same => leading same

section Scalars

variable (fuel : Nat) (rest : List Char)

private theorem skip_null :
    (skipValueWithin (fuel + 1) (writeNull ++ rest)).result = some ((), rest) := by
  rw [skipValueWithin, writeNull, List.cons_append, result_bind, result_peekVisible_cons (by decide)]
  exact result_word ['u', 'l', 'l'] rest

private theorem skip_flag (value : Bool) :
    (skipValueWithin (fuel + 1) (writeFlag value ++ rest)).result = some ((), rest) := by
  rw [skipValueWithin]
  cases value with
  | true =>
    rw [writeFlag, if_pos rfl, List.cons_append, result_bind, result_peekVisible_cons (by decide)]
    exact result_word ['r', 'u', 'e'] rest
  | false =>
    rw [writeFlag, if_neg (by simp), List.cons_append, result_bind,
      result_peekVisible_cons (by decide)]
    exact result_word ['a', 'l', 's', 'e'] rest

private theorem skip_text (quoted : Quoted held part) :
    (skipValueWithin (fuel + 1) (part ++ rest)).result = some ((), rest) := by
  obtain ⟨body, spelling, opened⟩ := quoted.opens
  rw [opened, skipValueWithin, result_bind, result_peekVisible_cons (by decide)]
  exact congrArg Step.result (skipTextBody_spelling spelling rest)

private theorem skip_numeral {rest : List Char} (numeral : Numeral part) (ends : Ends rest) :
    (skipValueWithin (fuel + 1) (part ++ rest)).result = some ((), rest) := by
  cases numeral with
  | positive whole fraction exponent =>
    have passed := congrArg Step.result (skipNumber_parts whole fraction exponent ends)
    obtain ⟨c, more, rfl, digit⟩ := whole.opens
    obtain ⟨_, _, _, _, _, _, _⟩ := marks_ne_of_isDigit digit
    simp only [List.cons_append, List.append_assoc] at passed ⊢
    rw [skipValueWithin, result_bind, result_peekVisible_cons (isSpace_of_isDigit digit)]
    simpa [digit] using passed
  | negative whole fraction exponent =>
    rw [List.cons_append, List.append_assoc, List.append_assoc, skipValueWithin, result_bind,
      result_peekVisible_cons (by decide)]
    exact congrArg Step.result (skipNumber_parts whole fraction exponent ends)

end Scalars

/-- Fuel for twice the length of a text is enough to pass over it. -/
structure Skips (fuel : Nat) : Prop where
  value : ∀ part, Compact part → ∀ rest, Ends rest → 2 * part.length ≤ fuel →
    (skipValueWithin fuel (part ++ rest)).result = some ((), rest)
  items : ∀ (part : List Char) (later : List (List Char)), (∀ other ∈ part :: later, Compact other) →
    ∀ rest, 2 * (strung true (part :: later)).length + 1 ≤ fuel →
    (skipItemsWithin fuel (strung true (part :: later) ++ ']' :: rest)).result = some ((), rest)
  members : ∀ (member : Member) (later : List Member),
    (∀ other ∈ member :: later, Compact other.value) → ∀ rest,
    2 * (strung true ((member :: later).map Member.text)).length + 1 ≤ fuel →
    (skipMembersWithin fuel
      (strung true ((member :: later).map Member.text) ++ '\x7d' :: rest)).result = some ((), rest)

theorem Skips.list (skips : Skips fuel) {parts : List (List Char)}
    (compact : ∀ part ∈ parts, Compact part) (rest : List Char)
    (enough : 2 * (listText parts).length ≤ fuel + 1) :
    (skipValueWithin (fuel + 1) (listText parts ++ rest)).result = some ((), rest) := by
  simp only [listText, List.length_cons, List.length_append, List.length_nil] at enough
  rw [listText_append, skipValueWithin, result_bind, result_peekVisible_cons (by decide)]
  cases parts with
  | nil => rfl
  | cons part later =>
    have passed := skips.items part later compact rest (by rw [strung, if_pos rfl]; omega)
    obtain ⟨c, more, rfl, opening⟩ := (compact part List.mem_cons_self).opens
    have visible := isSpace_of_isOpening opening
    have open_item : c ≠ ']' := ne_of_isOpening opening (by decide)
    simp only [strung_cons, lead, if_true, List.nil_append, List.cons_append] at passed ⊢
    simpa [result_peekVisible_cons visible] using passed

theorem Skips.object (skips : Skips fuel) {members : List Member}
    (compact : ∀ member ∈ members, Compact member.value) (rest : List Char)
    (enough : 2 * (objectText members).length ≤ fuel + 1) :
    (skipValueWithin (fuel + 1) (objectText members ++ rest)).result = some ((), rest) := by
  simp only [objectText, List.length_cons, List.length_append, List.length_nil] at enough
  rw [objectText_append, skipValueWithin, result_bind, result_peekVisible_cons (by decide)]
  cases members with
  | nil => rfl
  | cons member later =>
    have passed := skips.members member later compact rest (by rw [strung, if_pos rfl]; omega)
    obtain ⟨body, _, opened⟩ := member.quoted.opens
    simp only [List.map_cons, strung_cons, lead, if_true, List.nil_append, Member.text_append,
      opened] at passed ⊢
    have quote (text : List Char) : (peekVisible ('"' :: text)).result = some (some '"', '"' :: text) :=
      result_peekVisible_cons (by decide) text
    simpa [quote] using passed

theorem Skips.succ (skips : Skips fuel) : Skips (fuel + 1) where
  value part compact rest ends enough := by
    cases compact with
    | null => exact skip_null fuel rest
    | flag value => exact skip_flag fuel rest value
    | number numeral => exact skip_numeral fuel numeral ends
    | text quoted => exact skip_text fuel rest quoted
    | list all => exact skips.list all rest enough
    | object all => exact skips.object all rest enough
  items part later compact rest enough := by
    have first := compact part List.mem_cons_self
    rw [strung_cons] at enough ⊢
    simp only [lead, if_true, List.nil_append, List.length_append] at enough ⊢
    have behind : Ends (strung false later ++ ']' :: rest) := ends_strung _ (.inl rfl) rest
    rw [skipItemsWithin, List.append_assoc, result_bind,
      skips.value part first _ behind (by omega), Option.bind_some, result_bind]
    cases later with
    | nil => rw [strung_nil, List.nil_append, result_peekVisible_cons (by decide)]; rfl
    | cons next others =>
      rw [strung_false_cons, List.length_cons] at enough
      rw [strung_false_cons, List.cons_append, result_peekVisible_cons (by decide)]
      exact skips.items next others (fun other member =>
        compact other (List.mem_cons_of_mem part member)) rest (by omega)
  members member later compact rest enough := by
    have first := compact member List.mem_cons_self
    have size := member.length_text
    obtain ⟨body, spelling, opened⟩ := member.quoted.opens
    rw [List.map_cons, strung_cons] at enough ⊢
    simp only [lead, if_true, List.nil_append, List.length_append] at enough ⊢
    have behind : Ends (strung false (later.map Member.text) ++ '\x7d' :: rest) :=
      ends_strung _ (.inr rfl) rest
    rw [skipMembersWithin, List.append_assoc, member.text_append, opened, result_bind,
      result_peekVisible_cons (by decide)]
    simp only [Option.bind_some, result_bind, result_advance, skipTextBody_spelling spelling,
      result_done]
    rw [result_peekVisible_cons (by decide)]
    simp only [Option.bind_some, result_bind, result_advance]
    rw [skips.value member.value first _ behind (by omega), Option.bind_some]
    cases later with
    | nil => rw [List.map_nil, strung_nil, List.nil_append, result_peekVisible_cons (by decide)]; rfl
    | cons next others =>
      rw [List.map_cons, strung_false_cons, List.length_cons, ← List.map_cons] at enough
      rw [List.map_cons, strung_false_cons, ← List.map_cons, List.cons_append,
        result_peekVisible_cons (by decide)]
      exact skips.members next others (fun other inside =>
        compact other (List.mem_cons_of_mem member inside)) rest (by omega)

theorem skips (fuel : Nat) : Skips fuel := by
  induction fuel with
  | zero =>
    refine ⟨fun part compact rest ends enough => ?_, ?_, ?_⟩
    · obtain ⟨c, more, rfl, _⟩ := compact.opens
      simp at enough
    · intros
      omega
    · intros
      omega
  | succ fuel ih => exact ih.succ

/-- Every compact text is passed over exactly. -/
theorem Compact.result_skipValue (compact : Compact part) (ends : Ends rest) :
    (skipValue (part ++ rest)).result = some ((), rest) := by
  refine (skips _).value part compact rest ends ?_
  rw [List.length_append]
  omega

/-- Every value is passed over exactly. -/
theorem result_skipValue {value : Value} (integral : value.Integral) (ends : Ends rest) :
    (skipValue (value.write ++ rest)).result = some ((), rest) :=
  integral.compact.result_skipValue ends

end DevlogGraph.Json
