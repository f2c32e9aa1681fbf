import DevlogGraph.Proofs.Json.Record

/-! What a reader makes of one written value. A reader of a scalar gives back what was written, and a
record gives what its members make of its state, one after another. -/
namespace DevlogGraph.Json

open Reader Decimal Schema

/-- Reading the written value gives `found`, and what stands behind the value is left. -/
def Yields (reader : Reader α) (value : Value) (found : α) : Prop :=
  ∀ rest, Ends rest → (reader (value.write ++ rest)).result = some (found, rest)

theorem Yields.readAll {reader : Reader α} {item : Value} {found : α}
    (yields : Yields reader item found) : readAll reader item.compact.toList = .ok found := by
  have read := yields [] ends_nil
  rw [List.append_nil] at read
  rw [Value.compact, String.toList_ofList]
  exact toOption_eq_some_iff.mp (readAll_toOption read)

theorem yields_textAs {meaning : String → Except Mismatch α} (expected : String)
    (meant : meaning held = .ok found) : Yields (textAs expected meaning) (.text held) found := by
  intro rest _
  exact result_textAs_quoted (quoted_writeText held) meant expected rest

theorem yields_text (held : String) : Yields text (.text held) held := yields_textAs _ rfl

theorem yields_flag (set : Bool) : Yields flag (.flag set) set := by
  intro rest _
  rw [Value.write, flag, result_settled, result_bind]
  cases set with
  | true =>
    rw [writeFlag, if_pos rfl, List.cons_append, result_peekVisible_cons (by decide)]
    have letters := result_word ['r', 'u', 'e'] rest
    simp only [Option.bind_some, result_bind, result_advance, letters]
    rfl
  | false =>
    rw [writeFlag, if_neg (by simp), List.cons_append, result_peekVisible_cons (by decide)]
    have letters := result_word ['a', 'l', 's', 'e'] rest
    simp only [Option.bind_some, result_bind, result_advance, letters]
    rfl

/-- The digits of a number below `2 ^ 64` are all taken. -/
private theorem gather_of_small {front : List Char} {start : Nat}
    (small : front.foldl (fun total c => total * 10 + digitValue c) start < UInt64.size) :
    gather start front =
      ⟨front.foldl (fun total c => total * 10 + digitValue c) start, front.length, 0⟩ := by
  induction front generalizing start with
  | nil => rfl
  | cons c later ih =>
    rw [List.foldl_cons] at small ⊢
    have grows (more : List Char) (total : Nat) :
        total ≤ more.foldl (fun total c => total * 10 + digitValue c) total := by
      induction more generalizing total with
      | nil => exact Nat.le_refl total
      | cons d others ih => exact Nat.le_trans (by omega) (ih (total * 10 + digitValue d))
    rw [gather, if_pos (Nat.lt_of_le_of_lt (grows later _) small), ih small]
    rfl

private theorem takeWhile_digits {front rest : List Char}
    (all_digits : ∀ c ∈ front, isDigit c = true)
    (ends : Ends rest) : (front ++ rest).takeWhile isDigit = front := by
  rw [List.takeWhile_append_of_pos all_digits]
  have stopped : rest.takeWhile isDigit = [] := by
    cases rest with
    | nil => rfl
    | cons c more => simp [not_isDigit_of_mark (ends c rfl)]
  rw [stopped, List.append_nil]

private theorem number_digits {n : Nat} {rest : List Char} (small : n < UInt64.size)
    (ends : Ends rest) :
    number false (digits n ++ rest) = .done (.natural n) rest := by
  have gathered : gather 0 (digits n) = ⟨n, (digits n).length, 0⟩ := by
    have total : (digits n).foldl (fun total c => total * 10 + digitValue c) 0 = n := ofDigits_digits n
    rw [gather_of_small (by rwa [total]), total]
  have taken : (digits n ++ rest).takeWhile isDigit = digits n :=
    takeWhile_digits (fun c => isDigit_of_mem_digits) ends
  have left : (digits n ++ rest).dropWhile isDigit = rest :=
    dropWhile_digits (fun c => isDigit_of_mem_digits) ends.not_digit
  obtain ⟨c, more, split, digit, _, zero⟩ := digits_shape n
  have single : (c = '0' && (more ++ rest).head?.any isDigit) = false := by
    by_cases same : c = '0'
    · rw [zero same, List.nil_append, ends.not_digit, Bool.and_false]
    · simp [same]
  unfold number
  rw [split, List.cons_append] at taken left ⊢
  dsimp only
  rw [digit, single, taken, left, ← split, gathered]
  cases rest with
  | nil => rfl
  | cons mark later => rcases ends mark rfl with rfl | rfl | rfl <;> rfl

theorem yields_natural {n bound : Nat} (small : n < bound) (fits : n < UInt64.size) (name : String) :
    Yields (natural bound name) (.number (.natural n)) n := by
  intro rest ends
  have read := number_digits fits ends
  obtain ⟨c, more, split, digit, _⟩ := digits_shape n
  have visible := isSpace_of_isDigit digit
  rw [Value.write, writeNumber, natural, numberAs, result_settled, result_bind]
  rw [split, List.cons_append] at read ⊢
  rw [result_peekVisible_cons visible, Option.bind_some]
  obtain ⟨_, _, _, minus, _⟩ := marks_ne_of_isDigit digit
  dsimp only
  generalize same : (some c : Option Char) = next
  split
  · cases same
  · exact absurd (Option.some.inj same) minus
  · obtain rfl := Option.some.inj same
    rw [if_pos digit, result_bind, read, result_done, Option.bind_some]
    dsimp only
    rw [if_pos small]
    rfl

theorem yields_word64 (word : UInt64) :
    Yields word64 (.number (.natural word.toNat)) word := by
  intro rest ends
  rw [word64, result_bind, yields_natural word.toNat_lt word.toNat_lt "u64" rest ends]
  exact congrArg (fun found => some (found, rest)) UInt64.ofNat_toNat

theorem yields_null {reader : Reader α} : Yields (optional reader) .null none := by
  intro rest _
  rw [Value.write, writeNull, List.cons_append, optional, result_bind,
    result_peekVisible_cons (by decide)]
  have letters := result_word ['u', 'l', 'l'] rest
  simp only [Option.bind_some, result_bind, result_advance, letters]
  rfl

theorem yields_optional_text (held : String) : Yields (optional text) (.text held) (some held) := by
  intro rest ends
  have read := yields_text held rest ends
  rw [Value.write, writeText_append] at read ⊢
  rw [optional, result_bind, result_peekVisible_cons (by decide)]
  change ((text >>= fun found => pure (some found)) _).result = _
  rw [result_bind, read]
  rfl

theorem yields_variant {meaning : String → Except Mismatch α} (meant : meaning held = .ok found) :
    Yields (variant meaning) (.text held) found := by
  intro rest ends
  have read := yields_textAs "variant identifier" meant rest ends
  rw [Value.write, writeText_append] at read ⊢
  rw [variant, result_bind, result_peekVisible_cons (by decide)]
  exact read

namespace Layout

/-- What the members of an object make of the state, one after another: each is known, and read into
a place that is still empty. -/
inductive Takes (layout : Layout σ α) : σ → List (String × Value) → σ → Prop where
  | none (state : σ) : Takes layout state [] state
  | one {field : Slot σ} (known : layout.fields.find? (fun field => field.name == name) = some field)
      (empty : field.filled state = false) (yields : Yields (field.read state) item next)
      (later : Takes layout next others after) :
      Takes layout state ((name, item) :: others) after

variable {layout : Layout σ α} {written : List (String × Value)} {state after : σ} {found : α}

theorem Takes.membersFrom (takes : layout.Takes state written after)
    (made : layout.finish after = .ok found) (first : Bool) (rest : List Char)
    (enough : written.length < fuel) :
    (layout.membersFrom fuel first state
        (strung first (written.map memberText) ++ '\x7d' :: rest)).result =
      some (found, '\x7d' :: rest) := by
  induction takes generalizing fuel first with
  | none state =>
    obtain ⟨fuel, rfl⟩ := Nat.exists_eq_succ_of_ne_zero (Nat.ne_of_gt enough)
    rw [List.map_nil, strung_nil, List.nil_append, result_membersFrom_end,
      outcome_eq_some_iff.mpr made]
    rfl
  | @one name state item next others after field known empty yields later ih =>
    obtain ⟨fuel, rfl⟩ := Nat.exists_eq_succ_of_ne_zero (Nat.ne_zero_of_lt enough)
    have behind : Ends (strung false (others.map memberText) ++ '\x7d' :: rest) :=
      ends_strung _ (.inr rfl) rest
    have read : layout.member name state = (colon >>= fun _ => field.read state) := by
      rw [member, known]
      dsimp only
      rw [empty, if_neg (by simp)]
    rw [List.map_cons, result_membersFrom_cons]
    simp only [read, result_bind, result_colon, Option.bind_some, yields _ behind]
    exact ih made false (Nat.lt_of_succ_lt_succ enough)

theorem Takes.yields (takes : layout.Takes layout.start written after)
    (made : layout.finish after = .ok found) : Yields layout.read (.object written) found := by
  intro rest _
  have read : ∀ fuel, written.length < fuel → (layout.membersFrom fuel true layout.start
      (strung true (written.map memberText) ++ '\x7d' :: rest)).result =
        (some found).map fun whole => (whole, '\x7d' :: rest) :=
    fun fuel enough => takes.membersFrom made true rest enough
  exact result_read_object read

end Layout

end DevlogGraph.Json
