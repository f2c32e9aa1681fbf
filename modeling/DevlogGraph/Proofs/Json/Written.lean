import DevlogGraph.Proofs.Decimal.Written
import DevlogGraph.Proofs.Json.Text

/-! What written values look like from outside: where they start and end, what may stand behind them,
and how their parts are strung together. -/
namespace DevlogGraph.Json

open Reader Decimal

/-- All numbers in the value are integers, however large. -/
inductive Value.Integral : Value → Prop where
  | null : Integral .null
  | flag (value : Bool) : Integral (.flag value)
  | natural (value : Nat) : Integral (.number (.natural value))
  | negative (magnitude : Nat) : Integral (.number (.negative magnitude))
  | text (value : String) : Integral (.text value)
  | list {items : List Value} (all : ∀ item ∈ items, Integral item) : Integral (.list items)
  | object {members : List (String × Value)} (all : ∀ member ∈ members, Integral member.2) :
      Integral (.object members)

@[simp] theorem integral_text (value : String) : (Value.text value).Integral := .text value

@[simp] theorem integral_natural (value : Nat) : (Value.number (.natural value)).Integral :=
  .natural value

@[simp] theorem integral_list {items : List Value} :
    (Value.list items).Integral ↔ ∀ item ∈ items, item.Integral :=
  ⟨fun integral => by cases integral with | list all => exact all, .list⟩

@[simp] theorem integral_object {members : List (String × Value)} :
    (Value.object members).Integral ↔ ∀ member ∈ members, member.2.Integral :=
  ⟨fun integral => by cases integral with | object all => exact all, .object⟩

theorem writeItems_eq (items : List Value) : writeItems items = items.map Value.write := by
  induction items with
  | nil => rfl
  | cons item later ih => rw [writeItems, ih, List.map_cons]

/-- A member as it is written. -/
def memberText (member : String × Value) : List Char := writeMember member.1 member.2.write

theorem writeMembers_eq (members : List (String × Value)) :
    writeMembers members = members.map memberText := by
  induction members with
  | nil => rfl
  | cons member later ih => rw [writeMembers, ih, List.map_cons, memberText]

/-- A character that may be the first one of a written value. -/
def isOpening (c : Char) : Bool := isDigit c || ['n', 't', 'f', '-', '"', '[', '\x7b'].contains c

/-- A character that may be the last one of a written value. -/
def isClosing (c : Char) : Bool := isDigit c || ['l', 'e', '"', ']', '\x7d'].contains c

/-- What is true of no digit and none of a few characters is true of none of either kind. -/
theorem false_of_digit_or_mem {few : List Char} {test : Char → Bool} (listed : few.any test = false)
    (digits : ∀ c, isDigit c = true → test c = false)
    (found : (isDigit c || few.contains c) = true) : test c = false := by
  rw [Bool.or_eq_true, List.contains_iff_mem] at found
  rw [List.any_eq_false] at listed
  exact found.elim (digits c) fun member => Bool.eq_false_iff.mpr (listed c member)

/-- A digit opens no other value than a number. -/
theorem marks_ne_of_isDigit (digit : isDigit c = true) :
    c ≠ 'n' ∧ c ≠ 't' ∧ c ≠ 'f' ∧ c ≠ '-' ∧ c ≠ '"' ∧ c ≠ '[' ∧ c ≠ '\x7b' := by
  refine ⟨?_, ?_, ?_, ?_, ?_, ?_, ?_⟩ <;>
  · rintro rfl
    revert digit
    decide

theorem isSpace_of_isDigit (digit : isDigit c = true) : isSpace c = false := by
  obtain ⟨low, _⟩ := isDigit_bounds digit
  rw [Bool.eq_false_iff]
  intro space
  simp only [isSpace, Bool.or_eq_true, beq_iff_eq] at space
  rcases space with ((rfl | rfl) | rfl) | rfl <;> simp at low

theorem isSpace_of_isOpening (opening : isOpening c = true) : isSpace c = false :=
  false_of_digit_or_mem (by decide) (fun _ digit => isSpace_of_isDigit digit) opening

theorem ne_of_isOpening (opening : isOpening c = true) (closing : isOpening other = false) :
    c ≠ other := by
  rintro rfl
  rw [opening] at closing
  cases closing

/-- The first character of a written value, which tells texts, lists and objects from all else. -/
structure Opens (value : Value) (c : Char) : Prop where
  opening : isOpening c = true
  text : c = '"' ↔ ∃ held, value = .text held
  list : c = '[' ↔ ∃ items, value = .list items
  object : c = '\x7b' ↔ ∃ members, value = .object members

theorem write_opens {value : Value} (integral : value.Integral) :
    ∃ c more, value.write = c :: more ∧ Opens value c := by
  cases integral with
  | null => exact ⟨'n', _, rfl, by decide, by simp, by simp, by simp⟩
  | flag value =>
    cases value with
    | true => exact ⟨'t', _, rfl, by decide, by simp, by simp, by simp⟩
    | false => exact ⟨'f', _, rfl, by decide, by simp, by simp, by simp⟩
  | natural n =>
    obtain ⟨c, more, split, digit, _⟩ := digits_shape n
    obtain ⟨_, _, _, _, quote, bracket, brace⟩ := marks_ne_of_isDigit digit
    exact ⟨c, more, split, by simp [isOpening, digit], by simp [quote], by simp [bracket],
      by simp [brace]⟩
  | negative n => exact ⟨'-', _, rfl, by decide, by simp, by simp, by simp⟩
  | text value => exact ⟨'"', _, rfl, by decide, by simp, by simp, by simp⟩
  | list all => exact ⟨'[', _, rfl, by decide, by simp, by simp, by simp⟩
  | object all => exact ⟨'\x7b', _, rfl, by decide, by simp, by simp, by simp⟩

theorem write_closes {value : Value} (integral : value.Integral) :
    ∃ front c, value.write = front ++ [c] ∧ isClosing c = true := by
  have numeral (n : Nat) : ∃ front c, digits n = front ++ [c] ∧ isClosing c = true := by
    obtain ⟨c, more, split, _⟩ := digits_shape n
    obtain ⟨front, last, cut⟩ := (List.eq_nil_or_concat (digits n)).resolve_left (by simp [split])
    rw [List.concat_eq_append] at cut
    have digit : isDigit last = true := isDigit_of_mem_digits (n := n) (by simp [cut])
    exact ⟨front, last, cut, by simp [isClosing, digit]⟩
  cases integral with
  | null => exact ⟨['n', 'u', 'l'], 'l', rfl, by decide⟩
  | flag value =>
    cases value with
    | true => exact ⟨['t', 'r', 'u'], 'e', rfl, by decide⟩
    | false => exact ⟨['f', 'a', 'l', 's'], 'e', rfl, by decide⟩
  | natural n => exact numeral n
  | negative n =>
    obtain ⟨front, c, split, closing⟩ := numeral n
    exact ⟨'-' :: front, c, congrArg ('-' :: ·) split, closing⟩
  | text value => exact ⟨'"' :: value.toList.flatMap escapedChar, '"', rfl, by decide⟩
  | list all => exact ⟨_, ']', rfl, by decide⟩
  | object all => exact ⟨_, '\x7d', rfl, by decide⟩

/-- What may stand behind a value in a written text. -/
def Ends (rest : List Char) : Prop := ∀ c ∈ rest.head?, c = ',' ∨ c = ']' ∨ c = '\x7d'

theorem ends_nil : Ends [] := by
  intro c member
  cases member

private theorem ends_cons (mark : c = ',' ∨ c = ']' ∨ c = '\x7d') (rest : List Char) :
    Ends (c :: rest) := by
  rintro d same
  obtain rfl := Option.some.inj same
  exact mark

/-- Written parts, from the first one or from behind another one. -/
def strung (first : Bool) (parts : List (List Char)) : List Char :=
  if first then commaSeparated parts else parts.flatMap (',' :: ·)

/-- The comma in front of a part that is not the first one. -/
def lead (first : Bool) : List Char := if first then [] else [',']

theorem strung_nil (first : Bool) : strung first [] = [] := by cases first <;> rfl

theorem commaSeparated_cons (part : List Char) (later : List (List Char)) :
    commaSeparated (part :: later) = part ++ strung false later := by
  induction later generalizing part with
  | nil => simp [commaSeparated, strung]
  | cons next others ih =>
    rw [commaSeparated, ih]
    · simp [strung]
    · simp

theorem strung_cons (first : Bool) (part : List Char) (later : List (List Char)) :
    strung first (part :: later) = lead first ++ (part ++ strung false later) := by
  cases first with
  | true => exact commaSeparated_cons part later
  | false => simp [strung, lead]

theorem strung_false_cons (part : List Char) (later : List (List Char)) :
    strung false (part :: later) = ',' :: strung true (part :: later) := by
  rw [strung_cons, strung_cons]
  rfl

theorem write_list (items : List Value) (rest : List Char) : (Value.list items).write ++ rest =
    '[' :: (strung true (items.map Value.write) ++ ']' :: rest) := by
  simp [Value.write, writeItems_eq, strung]

theorem ends_strung (parts : List (List Char)) (mark : c = ']' ∨ c = '\x7d') (rest : List Char) :
    Ends (strung false parts ++ c :: rest) := by
  cases parts with
  | nil => exact ends_cons (.inr mark) rest
  | cons part later =>
    rw [strung_cons]
    exact ends_cons (.inl rfl) _

theorem result_hasItem_end (first : Bool) (rest : List Char) :
    (hasItem first (']' :: rest)).result = some (false, ']' :: rest) := by
  rw [hasItem, result_bind, result_peekVisible_cons (by decide)]
  rfl

theorem result_hasItem_lead (opening : isOpening c = true) (first : Bool) (rest : List Char) :
    (hasItem first (lead first ++ c :: rest)).result = some (true, c :: rest) := by
  have visible := isSpace_of_isOpening opening
  have open_item : c ≠ ']' := ne_of_isOpening opening (by decide)
  rw [hasItem, result_bind]
  cases first with
  | true => simp [lead, result_peekVisible_cons visible]
  | false =>
    rw [lead, if_neg (by simp), List.singleton_append, result_peekVisible_cons (by decide)]
    simp [result_peekVisible_cons visible]

theorem result_hasMember_end (first : Bool) (rest : List Char) :
    (hasMember first ('\x7d' :: rest)).result = some (false, '\x7d' :: rest) := by
  rw [hasMember, result_bind, result_peekVisible_cons (by decide)]
  rfl

theorem writeText_append (text : String) (rest : List Char) : writeText text ++ rest =
    '"' :: (text.toList.flatMap escapedChar ++ '"' :: rest) := by
  simp [writeText]

theorem result_hasMember_lead (quoted : Quoted name part) (first : Bool) (rest : List Char) :
    (hasMember first (lead first ++ (part ++ rest))).result = some (true, part ++ rest) := by
  obtain ⟨body, _, opened⟩ := quoted.opens
  rw [opened, hasMember, result_bind]
  cases first with
  | true =>
    rw [lead, if_pos rfl, List.nil_append, result_peekVisible_cons (by decide)]
    rfl
  | false =>
    rw [lead, if_neg (by simp), List.singleton_append, result_peekVisible_cons (by decide)]
    rfl

theorem result_key (quoted : Quoted name part) (rest : List Char) :
    (key (part ++ rest)).result = some (name, rest) := by
  obtain ⟨body, spelling, opened⟩ := quoted.opens
  rw [opened, key, result_bind, result_advance]
  exact result_textTail_spelling spelling rest

theorem result_colon (rest : List Char) : (colon (':' :: rest)).result = some ((), rest) := by
  rw [colon, result_bind, result_peekVisible_cons (by decide)]
  rfl

theorem result_closed (ending : List Char → Ending) (reader : Reader α) (text : List Char) :
    (closed ending reader text).result = (reader text).result.bind fun found =>
      match ending found.2 with
      | ⟨after, none⟩ => some (found.1, after)
      | ⟨_, some _⟩ => none := by
  unfold closed
  cases reader text with
  | done value rest =>
    rw [result_done, Option.bind_some]
    dsimp only
    obtain ⟨after, none | found⟩ := ending rest <;> rfl
  | stuck found => rfl
  | refused found rest => rfl

end DevlogGraph.Json
