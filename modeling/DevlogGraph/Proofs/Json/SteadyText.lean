import DevlogGraph.Proofs.Json.Similar

/-! Texts in quotes are read and passed over alike when the white space behind them differs. -/
namespace DevlogGraph.Json

open Reader Text Decimal

/-- What is true of none of the four spaces is true of visible characters only. -/
theorem visible_of_test {test : Char → Bool} (silent : [' ', '\n', '\t', '\r'].any test = false)
    (held : test c = true) : isSpace c = false := by
  rw [Bool.eq_false_iff]
  intro space
  simp only [isSpace, Bool.or_eq_true, beq_iff_eq] at space
  have listed : c ∈ [' ', '\n', '\t', '\r'] := by
    rcases space with ((rfl | rfl) | rfl) | rfl <;> decide
  exact List.any_eq_false.mp silent c listed held

private theorem hexValue_visible (digit : hexValue c = some found) : isSpace c = false :=
  visible_of_test (by decide : [' ', '\n', '\t', '\r'].any (fun c => (hexValue c).isSome) = false)
    (by rw [digit]; rfl)

private theorem simpleEscape_visible (simple : simpleEscape c = some plain) : isSpace c = false :=
  visible_of_test (by decide : [' ', '\n', '\t', '\r'].any (fun c => (simpleEscape c).isSome) = false)
    (by rw [simple]; rfl)

private theorem utf8Size_of_hexValue (digit : hexValue c = some found) : c.utf8Size = 1 := by
  rw [Char.utf8Size_eq_one_iff]
  have below {last : Char} (high : c ≤ last) (small : last.val ≤ 127) : c.val ≤ 127 :=
    UInt32.le_trans high small
  simp only [hexValue, Bool.and_eq_true, decide_eq_true_eq] at digit
  split at digit
  · rename_i bounds
    exact below bounds.2 (by decide)
  · split at digit
    · rename_i bounds
      exact below bounds.2 (by decide)
    · split at digit
      · rename_i bounds
        exact below bounds.2 (by decide)
      · cases digit

private theorem hexValue_of_foldl {front : List Char} {start : Option Nat}
    (sum : front.foldl (fun total c => do
      let sum ← total
      let digit ← hexValue c
      pure (sum * 16 + digit)) start = some found) :
    (∃ first, start = some first) ∧ ∀ c ∈ front, ∃ digit, hexValue c = some digit := by
  induction front generalizing start with
  | nil => exact ⟨⟨found, sum⟩, by simp⟩
  | cons c rest ih =>
    obtain ⟨⟨_, here⟩, others⟩ := ih sum
    obtain ⟨first, begun, further⟩ := Option.bind_eq_some_iff.mp here
    obtain ⟨digit, value, _⟩ := Option.bind_eq_some_iff.mp further
    exact ⟨⟨first, begun⟩, List.forall_mem_cons.mpr ⟨⟨digit, value⟩, others⟩⟩

private theorem length_le_byteCount (front : List Char) : front.length ≤ byteCount front := by
  induction front with
  | nil => exact Nat.le_refl 0
  | cons c rest ih =>
    have size := c.utf8Size_pos
    simp only [byteCount, List.foldr_cons, List.length_cons] at ih ⊢
    omega

private theorem byteCount_of_hex {front : List Char}
    (digits : ∀ c ∈ front, ∃ digit, hexValue c = some digit) :
    byteCount front = front.length := by
  induction front with
  | nil => rfl
  | cons c rest ih =>
    obtain ⟨⟨_, digit⟩, others⟩ := List.forall_mem_cons.mp digits
    have size := ih others
    simp only [byteCount, List.foldr_cons, List.length_cons] at size ⊢
    rw [utf8Size_of_hexValue digit, size, Nat.add_comm]

/-- Four digits are read from the beginning, whatever follows it. -/
private theorem fourHex_similar (similar : Similar front back) (read : fourHex front = .ok unit) :
    fourHex back = .ok unit ∧ Similar (front.drop 4) (back.drop 4) := by
  unfold fourHex at read
  split at read
  · cases read
  · rename_i bytes
    dsimp only at read
    split at read
    · rename_i sum
      obtain ⟨_, digits⟩ := hexValue_of_foldl sum
      have enough : 4 ≤ front.length := by
        refine Nat.le_of_not_lt fun short => bytes ?_
        rw [List.take_of_length_le (Nat.le_of_lt short)] at digits
        rwa [byteCount_of_hex digits]
      have visible : ∀ c ∈ front.take 4, isSpace c = false := by
        intro c member
        obtain ⟨digit, known⟩ := digits c member
        exact hexValue_visible known
      obtain ⟨same, behind⟩ := similar.take enough visible
      have long : 4 ≤ back.length := by
        have size := congrArg List.length same
        rw [List.length_take_of_le enough, List.length_take] at size
        omega
      have twin_bytes : ¬ byteCount back < 4 :=
        Nat.not_lt.mpr (Nat.le_trans long (length_le_byteCount back))
      refine ⟨?_, behind⟩
      rw [fourHex, if_neg twin_bytes, same]
      dsimp only
      rw [sum]
      exact read
    · cases read

private theorem lowHalf_similar (similar : Similar front back)
    (read : lowHalf high front = .ok found) :
    lowHalf high back = .ok found := by
  unfold lowHalf at read
  split at read
  · rename_i rest
    obtain ⟨_, rfl, later⟩ := similar.visible (by decide)
    obtain ⟨more, rfl, behind⟩ := later.visible (by decide)
    cases low : fourHex rest with
    | error fault =>
      rw [low] at read
      cases read
    | ok unit =>
      rw [low] at read
      rw [lowHalf, (fourHex_similar behind low).1]
      dsimp only [Bind.bind, Except.bind] at read ⊢
      split at read
      · rename_i half
        rw [if_pos half]
        exact read
      · cases read
  all_goals cases read

private theorem escaped_similar (similar : Similar front back) (read : escaped front = .ok found) :
    escaped back = .ok found := by
  unfold escaped at read
  split at read
  · cases read
  · rename_i rest
    obtain ⟨more, rfl, later⟩ := similar.visible (by decide)
    cases four : fourHex rest with
    | error fault =>
      rw [four] at read
      cases read
    | ok unit =>
      obtain ⟨twin, behind⟩ := fourHex_similar later four
      rw [four] at read
      rw [escaped, twin]
      dsimp only [Bind.bind, Except.bind] at read ⊢
      split at read
      · cases read
      · rename_i low
        rw [if_neg low]
        split at read
        · rename_i high
          rw [if_pos high]
          exact lowHalf_similar behind read
        · rename_i high
          rw [if_neg high]
          exact read
  · rename_i c rest plain
    split at read
    · rename_i simple
      obtain ⟨more, rfl, _⟩ := similar.visible (simpleEscape_visible simple)
      rw [escaped]
      · rw [simple]
        exact read
      · exact plain
    · cases read

private theorem result_prepend (c : Char) (step : Step (List Char)) :
    (step.prepend c).result = step.result.map fun found => (c :: found.1, found.2) := by
  cases step <;> rfl

theorem Follows.prepend {step twin : Step (List Char)} (follows : Follows bound step twin) (c : Char) :
    Follows bound (step.prepend c) (twin.prepend c) := by
  intro body rest read
  rw [result_prepend] at read
  obtain ⟨⟨later, _⟩, taken, same⟩ := Option.map_eq_some_iff.mp read
  cases same
  obtain ⟨more, twin_taken, others⟩ := follows later _ taken
  exact ⟨more, by rw [result_prepend, twin_taken]; rfl, others⟩

/-- A scan for the closing quote takes character after character, and finds none in white space. -/
private theorem steady_scan {scan : Nat → Reader α} (ended : ∀ skip, (scan skip []).result = none)
    (passed : ∀ skip c rest, scan (skip + 1) (c :: rest) = scan skip rest)
    (unquoted : ∀ c rest, isSpace c = true → (∀ skip, (scan skip rest).result = none) →
      (scan 0 (c :: rest)).result = none)
    (first : ∀ c rest more, Similar rest more →
      (∀ skip, Follows (more.length + 2) (scan skip rest) (scan skip more)) →
        Follows (more.length + 2) (scan 0 (c :: rest)) (scan 0 (c :: more))) (skip : Nat) :
    Steady (scan skip) := by
  intro front back similar
  induction similar generalizing skip with
  | @spaces front back left _ =>
    refine follows_of_none ?_
    induction front generalizing skip with
    | nil => exact ended skip
    | cons c rest ih =>
      obtain ⟨here, others⟩ := List.forall_mem_cons.mp left
      cases skip with
      | succ skip =>
        rw [passed]
        exact ih others skip
      | zero => exact unquoted c rest here (ih others)
  | @cons rest more c later ih =>
    have onward (skip : Nat) : Follows (more.length + 2) (scan skip rest) (scan skip more) :=
      (ih skip).mono (Nat.le_succ _)
    cases skip with
    | succ skip =>
      rw [passed, passed]
      exact onward skip
    | zero => exact first c rest more later onward

private theorem steady_textBody (skip : Nat) : Steady (textBody skip) := by
  refine steady_scan (fun skip => by cases skip <;> rfl) (fun _ _ _ => rfl) ?_ ?_ skip
  · intro c rest space unread
    have quote : c ≠ '"' := by rintro rfl; cases space
    have backslash : c ≠ '\\' := by rintro rfl; cases space
    rw [textBody, if_neg quote, if_neg backslash]
    split
    · rfl
    · rw [result_prepend, unread]
      rfl
  · intro c rest more later onward
    rw [textBody, textBody]
    split
    · exact follows_done [] later (by omega)
    · split
      · cases read : escaped rest with
        | error fault => exact follows_of_none rfl
        | ok found =>
          obtain ⟨plain, taken⟩ := found
          rw [escaped_similar later read]
          exact (onward taken).prepend plain
      · split
        · exact follows_of_none rfl
        · exact (onward 0).prepend c

theorem steady_textTail : Steady textTail := by
  intro front back similar
  exact (steady_textBody 0 front back similar).bind fun body rest more alike short =>
    follows_done (String.ofList body) alike short

private theorem escapeLength_similar (similar : Similar front back)
    (read : escapeLength front = .ok taken) :
    escapeLength back = .ok taken := by
  unfold escapeLength at read
  split at read
  · cases read
  · rename_i rest
    obtain ⟨more, rfl, later⟩ := similar.visible (by decide)
    cases four : fourHex rest with
    | error fault =>
      rw [four] at read
      cases read
    | ok unit =>
      rw [four] at read
      rw [escapeLength, (fourHex_similar later four).1]
      exact read
  · rename_i c rest plain
    split at read
    · rename_i simple
      obtain ⟨escape, known⟩ := Option.isSome_iff_exists.mp simple
      obtain ⟨more, rfl, _⟩ := similar.visible (simpleEscape_visible known)
      rw [escapeLength]
      · rw [if_pos simple]
        exact read
      · exact plain
    · cases read

theorem steady_skipTextBody (skip : Nat) : Steady (skipTextBody skip) := by
  refine steady_scan (fun skip => by cases skip <;> rfl) (fun _ _ _ => rfl) ?_ ?_ skip
  · intro c rest space unread
    have quote : c ≠ '"' := by rintro rfl; cases space
    have backslash : c ≠ '\\' := by rintro rfl; cases space
    rw [skipTextBody, if_neg quote, if_neg backslash]
    split
    · rfl
    · exact unread 0
  · intro c rest more later onward
    rw [skipTextBody, skipTextBody]
    split
    · exact follows_done () later (by omega)
    · split
      · cases read : escapeLength rest with
        | error fault => exact follows_of_none rfl
        | ok taken =>
          rw [escapeLength_similar later read]
          exact onward taken
      · split
        · exact follows_of_none rfl
        · exact onward 0

end DevlogGraph.Json
