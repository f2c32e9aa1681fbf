import DevlogGraph.Json.Write
import DevlogGraph.Proofs.Json.Step

/-! Spelled texts: each character is read as itself, whether it stands plainly or as an escape, and the
closing quote is the first one that no escape has taken. A written text is spelled in one of these ways. -/
namespace DevlogGraph.Json

open Reader Text

/-- Four hexadecimal digits, and the code unit they stand for. -/
inductive CodeUnit : Nat → List Char → Prop where
  | digits (first : hexValue a = some w) (second : hexValue b = some x) (third : hexValue c = some y)
      (fourth : hexValue d = some z) : CodeUnit (((w * 16 + x) * 16 + y) * 16 + z) [a, b, c, d]

theorem CodeUnit.length (unit : CodeUnit n four) : four.length = 4 := by
  cases unit with
  | digits => rfl

theorem CodeUnit.fourHex (unit : CodeUnit n four) (rest : List Char) :
    fourHex (four ++ rest) = .ok n := by
  cases unit with
  | @digits a w b x c y d z first second third fourth =>
    have enough : ¬ byteCount ([a, b, c, d] ++ rest) < 4 := by
      have first_size := a.utf8Size_pos
      have second_size := b.utf8Size_pos
      have third_size := c.utf8Size_pos
      have fourth_size := d.utf8Size_pos
      simp only [byteCount, List.cons_append, List.foldr_cons]
      omega
    rw [Json.fourHex, if_neg enough]
    simp [first, second, third, fourth]

private theorem hexValue_hexDigit (small : n < 16) : hexValue (hexDigit n) = some n := by
  have table : ((List.range 16).all fun n => hexValue (hexDigit n) == some n) = true := by decide
  exact eq_of_beq (List.all_eq_true.mp table n (List.mem_range.mpr small))

theorem codeUnit_of_small (small : n < 256) :
    CodeUnit n ['0', '0', hexDigit (n / 16), hexDigit (n % 16)] := by
  have zero : hexValue '0' = some 0 := by decide
  have unit := CodeUnit.digits zero zero (hexValue_hexDigit (n := n / 16) (by omega))
    (hexValue_hexDigit (n := n % 16) (by omega))
  have sum : ((0 * 16 + 0) * 16 + n / 16) * 16 + n % 16 = n := by omega
  rwa [sum] at unit

/-- A character is no half of a pair. -/
private theorem not_surrogate (c : Char) :
    isHighSurrogate c.toNat = false ∧ isLowSurrogate c.toNat = false := by
  have valid : c.toNat < 0xD800 ∨ 0xDFFF < c.toNat ∧ c.toNat < 0x110000 := c.valid
  simp only [isHighSurrogate, isLowSurrogate, Bool.and_eq_false_iff, decide_eq_false_iff_not]
  omega

/-- How a character may stand in a text. -/
inductive Spelled (c : Char) : List Char → Prop where
  | plain (quote : c ≠ '"') (backslash : c ≠ '\\') (printable : ¬ c.toNat < 0x20) : Spelled c [c]
  | simple (known : simpleEscape mark = some c) : Spelled c ['\\', mark]
  | unit (unit : CodeUnit c.toNat four) : Spelled c ('\\' :: 'u' :: four)
  | pair (first : CodeUnit high four) (second : CodeUnit low more)
      (high_half : isHighSurrogate high = true) (low_half : isLowSurrogate low = true)
      (sum : pairValue high low = c.toNat) :
      Spelled c ('\\' :: 'u' :: (four ++ '\\' :: 'u' :: more))

private theorem escapedChar_spelled (c : Char) : Spelled c (escapedChar c) := by
  unfold escapedChar
  split
  case h_8 other =>
    split
    · exact .unit (codeUnit_of_small (by omega))
    · rename_i printable
      exact .plain (by assumption) (by assumption) printable
  all_goals exact .simple rfl

private theorem simpleEscape_ordinary (known : simpleEscape mark = some c) : mark ≠ 'u' := by
  rintro rfl
  cases known

private theorem escaped_simple (known : simpleEscape mark = some c) (rest : List Char) :
    escaped (mark :: rest) = .ok (c, 1) := by
  have ordinary := simpleEscape_ordinary known
  unfold escaped
  split
  · rename_i empty
    cases empty
  · rename_i other same
    exact absurd (List.cons.inj same).1 ordinary
  · rename_i other after _ same
    obtain ⟨rfl, rfl⟩ := List.cons.inj same
    rw [known]

private theorem escapeLength_simple (known : simpleEscape mark = some c) (rest : List Char) :
    escapeLength (mark :: rest) = .ok 1 := by
  have ordinary := simpleEscape_ordinary known
  unfold escapeLength
  split
  · rename_i empty
    cases empty
  · rename_i other same
    exact absurd (List.cons.inj same).1 ordinary
  · rename_i other after _ same
    obtain ⟨rfl, rfl⟩ := List.cons.inj same
    rw [if_pos (by rw [known]; rfl)]

private theorem escaped_unit (unit : CodeUnit c.toNat four) (rest : List Char) :
    escaped ('u' :: (four ++ rest)) = .ok (c, 5) := by
  obtain ⟨not_high, not_low⟩ := not_surrogate c
  rw [escaped, unit.fourHex]
  dsimp only [bind, Except.bind]
  rw [not_low, not_high, Char.ofNat_toNat]
  rfl

private theorem escapeLength_unit (unit : CodeUnit n four) (rest : List Char) :
    escapeLength ('u' :: (four ++ rest)) = .ok 5 := by
  rw [escapeLength, unit.fourHex]
  rfl

private theorem escaped_pair (first : CodeUnit high four) (second : CodeUnit low more)
    (high_half : isHighSurrogate high = true) (low_half : isLowSurrogate low = true)
    (sum : pairValue high low = c.toNat) (rest : List Char) :
    escaped ('u' :: (four ++ '\\' :: 'u' :: (more ++ rest))) = .ok (c, 11) := by
  have not_low : isLowSurrogate high = false := by
    simp only [isHighSurrogate, isLowSurrogate, Bool.and_eq_true, Bool.and_eq_false_iff,
      decide_eq_true_eq, decide_eq_false_iff_not] at high_half ⊢
    omega
  have behind : (four ++ '\\' :: 'u' :: (more ++ rest)).drop 4 = '\\' :: 'u' :: (more ++ rest) := by
    rw [← first.length, List.drop_left]
  rw [escaped, first.fourHex]
  dsimp only [bind, Except.bind]
  rw [not_low, high_half, behind, lowHalf, second.fourHex]
  dsimp only [bind, Except.bind]
  rw [low_half, sum, Char.ofNat_toNat]
  rfl

private theorem textBody_skip (tail rest : List Char) :
    textBody tail.length (tail ++ rest) = textBody 0 rest := by
  induction tail with
  | nil => rfl
  | cons c more ih => exact ih

private theorem skipTextBody_skip (tail rest : List Char) :
    skipTextBody tail.length (tail ++ rest) = skipTextBody 0 rest := by
  induction tail with
  | nil => rfl
  | cons c more ih => exact ih

private theorem textBody_escape (taken : List Char) (rest : List Char)
    (read : escaped (taken ++ rest) = .ok (c, taken.length)) :
    textBody 0 ('\\' :: (taken ++ rest)) = (textBody 0 rest).prepend c := by
  rw [textBody, if_neg (by decide), if_pos rfl, read]
  dsimp only
  rw [textBody_skip]

private theorem skipTextBody_escape (taken : List Char) (rest : List Char)
    (passed : escapeLength (taken ++ rest) = .ok taken.length) :
    skipTextBody 0 ('\\' :: (taken ++ rest)) = skipTextBody 0 rest := by
  rw [skipTextBody, if_neg (by decide), if_pos rfl, passed]
  dsimp only
  rw [skipTextBody_skip]

theorem textBody_spelled (spelled : Spelled c spelling) (rest : List Char) :
    textBody 0 (spelling ++ rest) = (textBody 0 rest).prepend c := by
  cases spelled with
  | plain quote backslash printable =>
    rw [List.singleton_append, textBody, if_neg quote, if_neg backslash, if_neg printable]
  | simple known => exact textBody_escape [_] rest (escaped_simple known rest)
  | @unit four unit =>
    refine textBody_escape ('u' :: four) rest ?_
    rw [List.length_cons, unit.length]
    exact escaped_unit unit rest
  | @pair high four low more first second high_half low_half sum =>
    refine textBody_escape ('u' :: (four ++ '\\' :: 'u' :: more)) rest ?_
    simp only [List.cons_append, List.append_assoc, List.length_cons, List.length_append, first.length,
      second.length]
    exact escaped_pair first second high_half low_half sum rest

private theorem skipTextBody_unit (unit : CodeUnit n four) (rest : List Char) :
    skipTextBody 0 ('\\' :: 'u' :: (four ++ rest)) = skipTextBody 0 rest := by
  refine skipTextBody_escape ('u' :: four) rest ?_
  rw [List.length_cons, unit.length]
  exact escapeLength_unit unit rest

/-- A text that is passed over is not read: the halves of a pair are two escapes. -/
theorem skipTextBody_spelled (spelled : Spelled c spelling) (rest : List Char) :
    skipTextBody 0 (spelling ++ rest) = skipTextBody 0 rest := by
  cases spelled with
  | plain quote backslash printable =>
    rw [List.singleton_append, skipTextBody, if_neg quote, if_neg backslash, if_neg printable]
  | simple known => exact skipTextBody_escape [_] rest (escapeLength_simple known rest)
  | unit unit => exact skipTextBody_unit unit rest
  | pair first second =>
    simp only [List.cons_append, List.append_assoc]
    rw [skipTextBody_unit first, skipTextBody_unit second]

/-- The characters of a text, each one spelled in one of its ways. -/
inductive Spelling : List Char → List Char → Prop where
  | nil : Spelling [] []
  | cons (spelled : Spelled c front) (later : Spelling more back) :
      Spelling (c :: more) (front ++ back)

/-- A text between quotes. -/
inductive Quoted (held : String) : List Char → Prop where
  | spelling (spelling : Spelling held.toList body) : Quoted held ('"' :: (body ++ ['"']))

private theorem spelling_written (text : List Char) : Spelling text (text.flatMap escapedChar) := by
  induction text with
  | nil => exact .nil
  | cons c more ih => exact .cons (escapedChar_spelled c) ih

theorem quoted_writeText (text : String) : Quoted text (writeText text) :=
  .spelling (spelling_written text.toList)

theorem Quoted.opens (quoted : Quoted held part) :
    ∃ body, Spelling held.toList body ∧ ∀ rest, part ++ rest = '"' :: (body ++ '"' :: rest) := by
  cases quoted with
  | @spelling body spelling => exact ⟨body, spelling, fun rest => by simp⟩

private theorem textBody_spelling (spelling : Spelling chars body) (rest : List Char) :
    textBody 0 (body ++ '"' :: rest) = .done chars rest := by
  induction spelling with
  | nil => rfl
  | cons spelled _ ih =>
    rw [List.append_assoc, textBody_spelled spelled, ih]
    rfl

theorem skipTextBody_spelling (spelling : Spelling chars body) (rest : List Char) :
    skipTextBody 0 (body ++ '"' :: rest) = .done () rest := by
  induction spelling with
  | nil => rfl
  | cons spelled _ ih => rw [List.append_assoc, skipTextBody_spelled spelled, ih]

theorem result_textTail_spelling {held : String} (spelling : Spelling held.toList body)
    (rest : List Char) : (textTail (body ++ '"' :: rest)).result = some (held, rest) := by
  rw [textTail, result_bind, textBody_spelling spelling]
  simp

@[simp] theorem result_textTail_written (text : String) (rest : List Char) :
    (textTail (text.toList.flatMap escapedChar ++ '"' :: rest)).result = some (text, rest) :=
  result_textTail_spelling (spelling_written text.toList) rest

theorem CodeUnit.feed_not_mem (unit : CodeUnit n four) : '\n' ∉ four := by
  cases unit with
  | digits first second third fourth =>
    have absent {c : Char} {digit : Nat} (known : hexValue c = some digit) : '\n' ≠ c := by
      rintro rfl
      cases known
    simp [absent first, absent second, absent third, absent fourth]

theorem Spelled.feed_not_mem (spelled : Spelled c spelling) : '\n' ∉ spelling := by
  cases spelled with
  | plain _ _ printable =>
    rw [List.mem_singleton]
    rintro rfl
    exact printable (by decide)
  | @simple mark known =>
    have absent : '\n' ≠ mark := by
      rintro rfl
      cases known
    simp [absent]
  | unit unit => simp [unit.feed_not_mem]
  | pair first second => simp [first.feed_not_mem, second.feed_not_mem]

theorem Spelling.feed_not_mem (spelling : Spelling chars body) : '\n' ∉ body := by
  induction spelling with
  | nil => exact List.not_mem_nil
  | cons spelled _ ih =>
    rw [List.mem_append, not_or]
    exact ⟨spelled.feed_not_mem, ih⟩

theorem Quoted.feed_not_mem (quoted : Quoted held part) : '\n' ∉ part := by
  cases quoted with
  | spelling spelling => simp [spelling.feed_not_mem]

end DevlogGraph.Json
