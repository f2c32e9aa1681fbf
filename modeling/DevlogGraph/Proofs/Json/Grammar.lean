import DevlogGraph.Proofs.Json.Written

/-! The grammar of compact JSON texts, whoever writes them: there is no white space between the parts,
and a number or a text may be written in any of the ways that JSON knows. -/
namespace DevlogGraph.Json

open Reader Decimal

/-- One digit or more. -/
structure Digits (text : List Char) : Prop where
  nonempty : text ≠ []
  digits : ∀ c ∈ text, isDigit c = true

/-- An integer without a sign, and without zeros in front. -/
inductive Whole : List Char → Prop where
  | zero : Whole ['0']
  | more (digit : isDigit c = true) (leading : c ≠ '0') (others : ∀ d ∈ later, isDigit d = true) :
      Whole (c :: later)

inductive Fraction : List Char → Prop where
  | none : Fraction []
  | some (digits : Digits places) : Fraction ('.' :: places)

inductive Exponent : List Char → Prop where
  | none : Exponent []
  | some (mark : isExponentMark c = true) (sign : front = [] ∨ front = ['+'] ∨ front = ['-'])
      (digits : Digits size) : Exponent (c :: (front ++ size))

/-- A number as JSON writes it. -/
inductive Numeral : List Char → Prop where
  | positive (whole : Whole front) (fraction : Fraction middle) (exponent : Exponent back) :
      Numeral (front ++ (middle ++ back))
  | negative (whole : Whole front) (fraction : Fraction middle) (exponent : Exponent back) :
      Numeral ('-' :: (front ++ (middle ++ back)))

def listText (parts : List (List Char)) : List Char := '[' :: (commaSeparated parts ++ [']'])

/-- A member as it is written: its name in quotes, and its value. -/
structure Member where
  name : String
  quote : List Char
  quoted : Quoted name quote
  value : List Char

def Member.text (member : Member) : List Char := member.quote ++ ':' :: member.value

def objectText (members : List Member) : List Char :=
  '\x7b' :: (commaSeparated (members.map Member.text) ++ ['\x7d'])

/-- A JSON text of one value, without white space. -/
inductive Compact : List Char → Prop where
  | null : Compact writeNull
  | flag (value : Bool) : Compact (writeFlag value)
  | number (numeral : Numeral part) : Compact part
  | text (quoted : Quoted held part) : Compact part
  | list {parts : List (List Char)} (all : ∀ part ∈ parts, Compact part) :
      Compact (listText parts)
  | object {members : List Member} (all : ∀ member ∈ members, Compact member.value) :
      Compact (objectText members)

theorem listText_append (parts : List (List Char)) (rest : List Char) :
    listText parts ++ rest = '[' :: (strung true parts ++ ']' :: rest) := by
  simp [listText, strung]

theorem objectText_append (members : List Member) (rest : List Char) : objectText members ++ rest =
    '\x7b' :: (strung true (members.map Member.text) ++ '\x7d' :: rest) := by
  simp [objectText, strung]

theorem Member.text_append (member : Member) (rest : List Char) :
    member.text ++ rest = member.quote ++ ':' :: (member.value ++ rest) := by
  simp [Member.text]

theorem Member.length_text (member : Member) : member.value.length + 3 ≤ member.text.length := by
  obtain ⟨body, _, opened⟩ := member.quoted.opens
  have size := congrArg List.length (member.text_append [])
  rw [opened] at size
  simp only [List.append_nil, List.length_cons, List.length_append] at size
  omega

theorem Member.text_ne_nil (member : Member) : member.text ≠ [] := by
  have size := member.length_text
  rw [← List.length_pos_iff]
  omega

/-- A value as it is written. -/
def written (member : String × Value) : Member where
  name := member.1
  quote := writeText member.1
  quoted := quoted_writeText member.1
  value := member.2.write

theorem write_object_eq (members : List (String × Value)) :
    (Value.object members).write = objectText (members.map written) := by
  rw [objectText, List.map_map, Value.write, writeMembers_eq]
  rfl

theorem Whole.opens (whole : Whole front) : ∃ c more, front = c :: more ∧ isDigit c = true := by
  cases whole with
  | zero => exact ⟨'0', [], rfl, by decide⟩
  | more digit _ _ => exact ⟨_, _, rfl, digit⟩

/-- A compact text starts like a written value. -/
theorem Compact.opens (compact : Compact part) :
    ∃ c more, part = c :: more ∧ isOpening c = true := by
  cases compact with
  | null => exact ⟨'n', _, rfl, by decide⟩
  | flag value => cases value <;> exact ⟨_, _, rfl, by decide⟩
  | number numeral =>
    cases numeral with
    | positive whole _ _ =>
      obtain ⟨c, more, rfl, digit⟩ := whole.opens
      exact ⟨c, _, rfl, by simp [isOpening, digit]⟩
    | negative _ _ _ => exact ⟨'-', _, rfl, by decide⟩
  | text quoted =>
    cases quoted with
    | spelling _ => exact ⟨'"', _, rfl, by decide⟩
  | list all => exact ⟨'[', _, rfl, by decide⟩
  | object all => exact ⟨'\x7b', _, rfl, by decide⟩

private theorem whole_digits (n : Nat) : Whole (digits n) := by
  obtain ⟨c, more, split, digit, others, zero⟩ := digits_shape n
  rw [split]
  by_cases same : c = '0'
  · rw [same, zero same]
    exact .zero
  · exact .more digit same others

/-- Integral values are written as compact texts. -/
theorem Value.Integral.compact {value : Value} (integral : value.Integral) : Compact value.write := by
  induction integral with
  | null => exact .null
  | flag value => exact .flag value
  | natural n =>
    have numeral := Numeral.positive (whole_digits n) .none .none
    rw [List.append_nil, List.append_nil] at numeral
    exact .number numeral
  | negative n =>
    have numeral := Numeral.negative (whole_digits n) .none .none
    rw [List.append_nil, List.append_nil] at numeral
    exact .number numeral
  | text value => exact .text (quoted_writeText value)
  | @list items _ ih =>
    rw [Value.write, writeItems_eq]
    exact .list (List.forall_mem_map.mpr ih)
  | @object members _ ih =>
    rw [write_object_eq]
    exact .object (List.forall_mem_map.mpr ih)

private theorem feed_not_mem_commaSeparated {parts : List (List Char)}
    (absent : ∀ part ∈ parts, '\n' ∉ part) :
    '\n' ∉ commaSeparated parts := by
  cases parts with
  | nil => exact List.not_mem_nil
  | cons part later =>
    obtain ⟨here, others⟩ := List.forall_mem_cons.mp absent
    simp only [commaSeparated_cons, strung, Bool.false_eq_true, if_false, List.mem_append,
      List.mem_flatMap, List.mem_cons, not_or, not_exists, not_and]
    exact ⟨here, fun other member => ⟨by decide, others other member⟩⟩

theorem Member.feed_not_mem (member : Member) (absent : '\n' ∉ member.value) : '\n' ∉ member.text := by
  simp [Member.text, member.quoted.feed_not_mem, absent]

theorem feed_not_mem_objectText {members : List Member}
    (absent : ∀ member ∈ members, '\n' ∉ member.value) : '\n' ∉ objectText members := by
  have inside : '\n' ∉ commaSeparated (members.map Member.text) := feed_not_mem_commaSeparated
    (List.forall_mem_map.mpr fun member listed => member.feed_not_mem (absent member listed))
  simp [objectText, inside]

private theorem feed_not_mem_of_isDigit {text : List Char} (digits : ∀ c ∈ text, isDigit c = true) :
    '\n' ∉ text := by
  intro member
  have digit := digits '\n' member
  revert digit
  decide

theorem Numeral.feed_not_mem (numeral : Numeral part) : '\n' ∉ part := by
  have front {whole : List Char} (form : Whole whole) : '\n' ∉ whole := by
    cases form with
    | zero => decide
    | more digit _ others =>
      exact feed_not_mem_of_isDigit (List.forall_mem_cons.mpr ⟨digit, others⟩)
  have middle {fraction : List Char} (form : Fraction fraction) : '\n' ∉ fraction := by
    cases form with
    | none => exact List.not_mem_nil
    | some digits => simp [feed_not_mem_of_isDigit digits.digits]
  have back {exponent : List Char} (form : Exponent exponent) : '\n' ∉ exponent := by
    cases form with
    | none => exact List.not_mem_nil
    | @some c sign size mark signed digits =>
      have absent : '\n' ≠ c := by
        rintro rfl
        revert mark
        decide
      have plain := feed_not_mem_of_isDigit digits.digits
      rcases signed with rfl | rfl | rfl <;> simp [absent, plain]
  cases numeral with
  | positive whole fraction exponent => simp [front whole, middle fraction, back exponent]
  | negative whole fraction exponent => simp [front whole, middle fraction, back exponent]

theorem Compact.feed_not_mem (compact : Compact part) : '\n' ∉ part := by
  induction compact with
  | null => decide
  | flag value => cases value <;> decide
  | number numeral => exact numeral.feed_not_mem
  | text quoted => exact quoted.feed_not_mem
  | list all ih => simp [listText, feed_not_mem_commaSeparated ih]
  | object all ih => exact feed_not_mem_objectText ih

end DevlogGraph.Json
