import DevlogGraph.Proofs.Decimal.Written
import DevlogGraph.Proofs.Fallible
import DevlogGraph.Proofs.Text.Blank
import DevlogGraph.Time.Instant

/-! Instants are read from what is written of them, whatever the year and the fraction, and nothing but
an instant is ever read. -/
namespace DevlogGraph.Time

open Text Decimal

/-- A date of the calendar and a time of day; the second may be a leap second. -/
structure Instant.Valid (instant : Instant) : Prop where
  date : instant.date.isValid = true
  hour : instant.hour ≤ 23
  minute : instant.minute ≤ 59
  second : instant.second ≤ 60
  nano : instant.nano < 1000000000

private theorem readNumber_digits {front : List Char} (nonempty : front ≠ [])
    (digits : ∀ c ∈ front, isDigit c = true) (fits : front.length ≤ width)
    (ends : front.length = width ∨ rest.head?.any isDigit = false) :
    readNumber width (front ++ rest) = .ok (ofDigits front, rest) := by
  have found : ((front ++ rest).take width).takeWhile isDigit = front := by
    rw [List.take_append, List.take_of_length_le fits, List.takeWhile_append_of_pos digits]
    rcases ends with full | other
    · rw [full, Nat.sub_self, List.take_zero, List.takeWhile_nil, List.append_nil]
    · have stopped : (rest.take (width - front.length)).takeWhile isDigit = [] := by
        cases rest with
        | nil => simp
        | cons c more =>
          have mark : isDigit c = false := by simpa using other
          cases width - front.length <;> simp [mark]
      rw [stopped, List.append_nil]
  cases front with
  | nil => exact absurd rfl nonempty
  | cons c more =>
    have digit := digits c List.mem_cons_self
    unfold readNumber
    rw [List.cons_append]
    dsimp only
    rw [← List.cons_append, found, digit, List.drop_left]
    rfl

private theorem readNumber_padded (fits : n < Nat.pow 10 width) (some_width : 0 < width)
    (rest : List Char) :
    readNumber width (padded width n ++ rest) = .ok (n, rest) := by
  have size := length_padded fits some_width
  rw [readNumber_digits (padded_ne_nil width n) (fun c => isDigit_of_mem_padded) (Nat.le_of_eq size)
    (.inl size), ofDigits_padded]

private theorem trimStart_padded (width n : Nat) (rest : List Char) :
    trimStart (padded width n ++ rest) = padded width n ++ rest := by
  apply trimStart_of_head
  cases split : padded width n with
  | nil => exact absurd split (padded_ne_nil width n)
  | cons c more =>
    have digit : isDigit c = true := isDigit_of_mem_padded (split ▸ List.mem_cons_self)
    simp [isBlank_of_isDigit digit]

private theorem readBetween_padded (least : low ≤ n) (most : n ≤ high) (short : high < 100)
    (rest : List Char) : readBetween low high (padded 2 n ++ rest) = .ok (n, rest) := by
  have fits : n < Nat.pow 10 2 := Nat.lt_of_le_of_lt most short
  rw [readBetween, trimStart_padded, readNumber_padded fits (by decide)]
  simp [ok_bind, pure, Except.pure, least, most]

private theorem readMark_cons (visible : isBlank mark = false) (rest : List Char) :
    readMark mark (mark :: rest) = .ok rest := by
  rw [readMark, trimStart_of_head (by simp [visible])]
  simp

private theorem readYear_negative (text : List Char) : readYear ('-' :: text) =
    readNumber text.length text >>= fun (value, rest) =>
      if value ≤ Nat.pow 2 31 then pure (-(value : Int), rest) else throw .outOfRange := by
  rw [readYear, trimStart_of_head rfl]
  rfl

private theorem readYear_positive (text : List Char) : readYear ('+' :: text) =
    readNumber text.length text >>= fun (value, rest) =>
      if value < Nat.pow 2 31 then pure ((value : Int), rest) else throw .outOfRange := by
  rw [readYear, trimStart_of_head rfl]
  rfl

private theorem readYear_plain (size : Nat) (rest : List Char) : readYear (padded 4 size ++ rest) =
    readNumber 4 (padded 4 size ++ rest) >>= fun (value, rest) => pure ((value : Int), rest) := by
  rw [readYear, trimStart_padded]
  cases split : padded 4 size with
  | nil => exact absurd split (padded_ne_nil 4 size)
  | cons c more =>
    have digit : isDigit c = true := isDigit_of_mem_padded (split ▸ List.mem_cons_self)
    split
    · rename_i sign
      rw [(List.cons.inj sign).1] at digit
      cases digit
    · rename_i sign
      rw [(List.cons.inj sign).1] at digit
      cases digit
    · rfl

theorem readYear_yearText {year : Int} (least : Date.firstYear ≤ year) (most : year ≤ Date.lastYear)
    (rest : List Char) : readYear (yearText year ++ '-' :: rest) = .ok (year, '-' :: rest) := by
  have any_width (size : Nat) : readNumber (padded 4 size ++ '-' :: rest).length
      (padded 4 size ++ '-' :: rest) = .ok (size, '-' :: rest) := by
    rw [readNumber_digits (padded_ne_nil 4 size) (fun c => isDigit_of_mem_padded) (by simp)
      (.inr rfl), ofDigits_padded]
  rw [Date.firstYear] at least
  rw [Date.lastYear] at most
  have small : year.natAbs < Nat.pow 2 31 := by
    have value : Nat.pow 2 31 = 2147483648 := rfl
    omega
  unfold yearText
  split
  · rename_i plain
    rw [Bool.and_eq_true, decide_eq_true_eq, decide_eq_true_eq] at plain
    have fits : year.toNat < Nat.pow 10 4 := by
      have value : Nat.pow 10 4 = 10000 := rfl
      omega
    rw [readYear_plain, readNumber_padded fits (by decide), ok_bind]
    dsimp only
    rw [Int.toNat_of_nonneg plain.1]
    rfl
  · split
    · rename_i negative
      rw [List.cons_append, readYear_negative, any_width, ok_bind]
      dsimp only
      rw [if_pos (Nat.le_of_lt small), Int.ofNat_natAbs_of_nonpos (Int.le_of_lt negative),
        Int.neg_neg]
      rfl
    · rename_i positive
      rw [List.cons_append, readYear_positive, any_width, ok_bind]
      dsimp only
      rw [if_pos small, Int.natAbs_of_nonneg (Int.not_lt.mp positive)]
      rfl

/-- A fraction in a group of digits counts in units of the last one. -/
private theorem readFraction_padded (some_width : 0 < width) (short : width ≤ 9)
    (fits : size < Nat.pow 10 width) (rest : List Char) :
    readFraction ('.' :: padded width size ++ 'Z' :: rest) =
      .ok (size * Nat.pow 10 (9 - width), 'Z' :: rest) := by
  have length := length_padded fits some_width
  have used : (padded width size ++ 'Z' :: rest).length - ('Z' :: rest).length = width := by
    rw [List.length_append, Nat.add_sub_cancel, length]
  rw [List.cons_append, readFraction, readNumber_digits (padded_ne_nil _ _)
    (fun c => isDigit_of_mem_padded) (by omega) (.inr rfl), ofDigits_padded, ok_bind]
  dsimp only
  rw [used]
  rfl

theorem readFraction_fractionText (fits : nano < 1000000000) (rest : List Char) :
    readFraction (fractionText nano ++ 'Z' :: rest) = .ok (nano, 'Z' :: rest) := by
  have thousand : Nat.pow 10 3 = 1000 := rfl
  have million : Nat.pow 10 6 = 1000000 := rfl
  have billion : Nat.pow 10 9 = 1000000000 := rfl
  unfold fractionText
  split
  · rename_i whole
    rw [whole]
    rfl
  · split
    · rename_i millis
      have size : nano / 1000000 * Nat.pow 10 (9 - 3) = nano := by
        change nano / 1000000 * Nat.pow 10 6 = nano
        rw [million]
        omega
      rw [readFraction_padded (by decide) (by decide) (by omega), size]
    · split
      · rename_i micros
        have size : nano / 1000 * Nat.pow 10 (9 - 6) = nano := by
          change nano / 1000 * Nat.pow 10 3 = nano
          rw [thousand]
          omega
        rw [readFraction_padded (by decide) (by decide) (by omega), size]
      · rw [readFraction_padded (by decide) (by decide) (by omega)]
        exact congrArg (fun value => Except.ok (value, 'Z' :: rest)) (Nat.mul_one nano)

private theorem toUniversal_zero (date : Date) (hour_most : hour ≤ 23) (minute_most : minute ≤ 59) :
    toUniversal date hour minute 0 = (date, hour, minute) := by
  unfold toUniversal
  dsimp only
  rw [if_neg (by omega), if_neg (by omega)]
  have hours : (((hour * 60 + minute : Nat) : Int) - 0).toNat / 60 = hour := by omega
  have minutes : (((hour * 60 + minute : Nat) : Int) - 0).toNat % 60 = minute := by omega
  rw [hours, minutes]

private theorem daysInMonth_le (year : Int) (month : Nat) : daysInMonth year month ≤ 31 := by
  unfold daysInMonth
  repeat' split
  all_goals omega

theorem Date.isValid_iff (date : Date) : date.isValid = true ↔
    Date.firstYear ≤ date.year ∧ date.year ≤ Date.lastYear ∧ 1 ≤ date.month ∧ date.month ≤ 12 ∧
      1 ≤ date.day ∧ date.day ≤ daysInMonth date.year date.month := by
  simp [Date.isValid, and_assoc]

theorem Instant.read_write (instant : Instant) (valid : instant.Valid) :
    Instant.read instant.write = .ok instant := by
  obtain ⟨⟨year, month, day⟩, hour, minute, second, nano⟩ := instant
  obtain ⟨date, hour_most, minute_most, second_most, fits⟩ := valid
  obtain ⟨least, most, some_month, month_most, some_day, day_most⟩ := (Date.isValid_iff _).mp date
  have day_short := Nat.le_trans day_most (daysInMonth_le year month)
  rw [Instant.read, Instant.write, String.toList_ofList]
  simp only [List.append_assoc, List.cons_append]
  rw [readYear_yearText least most, ok_bind]
  dsimp only
  rw [readMark_cons (by decide), ok_bind, readBetween_padded some_month month_most (by decide), ok_bind]
  dsimp only
  rw [readMark_cons (by decide), ok_bind, readBetween_padded some_day day_short (by decide), ok_bind]
  dsimp only
  simp only [decide_true, Bool.true_or, if_true, pure, Except.pure]
  rw [ok_bind, readBetween_padded (Nat.zero_le hour) hour_most (by decide), ok_bind]
  dsimp only
  rw [readMark_cons (by decide), ok_bind, readBetween_padded (Nat.zero_le minute) minute_most (by decide),
    ok_bind]
  dsimp only
  rw [readMark_cons (by decide), ok_bind, readBetween_padded (Nat.zero_le second) second_most (by decide),
    ok_bind]
  dsimp only
  have zone : readOffset (trimStart ['Z']) = .ok (0, []) := rfl
  have nothing : trimStart ([] : List Char) = [] := rfl
  have universal := toUniversal_zero ⟨year, month, day⟩ hour_most minute_most
  rw [readFraction_fractionText fits, ok_bind]
  dsimp only at date universal ⊢
  rw [zone, ok_bind]
  simp [nothing, universal, date]

private theorem readNumber_ok {text : List Char}
    (read : readNumber width text = .ok (value, rest)) : ∃ front,
    text = front ++ rest ∧ (∀ c ∈ front, isDigit c = true) ∧ front.length ≤ width ∧
      value = ofDigits front := by
  unfold readNumber at read
  split at read
  · cases read
  · rename_i c more
    dsimp only at read
    split at read
    · cases read
    · cases read
      have inside : ((c :: more).take width).takeWhile isDigit <+: c :: more :=
        (List.takeWhile_prefix isDigit).trans (List.take_prefix width (c :: more))
      refine ⟨_, ?_, List.all_eq_true.mp List.all_takeWhile, ?_, rfl⟩
      · exact (List.prefix_iff_eq_append.mp inside).symm
      · exact Nat.le_trans (List.takeWhile_prefix isDigit).length_le (List.length_take_le width _)

private theorem readBetween_ok {text : List Char}
    (read : readBetween low high text = .ok (value, rest)) :
    low ≤ value ∧ value ≤ high := by
  unfold readBetween at read
  obtain ⟨⟨found, behind⟩, _, read⟩ := bind_eq_ok_iff.mp read
  dsimp only at read
  split at read
  · rename_i inside
    rw [Bool.and_eq_true, decide_eq_true_eq, decide_eq_true_eq] at inside
    cases read
    exact inside
  · cases read

private theorem readFraction_ok {text : List Char} (read : readFraction text = .ok (nano, rest)) :
    nano < 1000000000 := by
  unfold readFraction at read
  split at read
  · rename_i more
    obtain ⟨⟨value, behind⟩, found, read⟩ := bind_eq_ok_iff.mp read
    obtain ⟨front, rfl, digits, short, rfl⟩ := readNumber_ok found
    cases read
    have used : (front ++ behind).length - behind.length = front.length := by
      rw [List.length_append, Nat.add_sub_cancel]
    have split : Nat.pow 10 front.length * Nat.pow 10 (9 - front.length) = Nat.pow 10 9 := by
      have power := Nat.pow_add 10 front.length (9 - front.length)
      rw [Nat.add_sub_cancel' short] at power
      exact power.symm
    have some_unit : 0 < Nat.pow 10 (9 - front.length) := Nat.pow_pos (by decide)
    rw [used]
    exact Nat.lt_of_lt_of_eq (Nat.mul_lt_mul_of_pos_right (ofDigits_lt digits) some_unit) split
  · cases read
    decide

private theorem toUniversal_bounds (hour_most : hour ≤ 23) (minute_most : minute ≤ 59)
    (day : offset.natAbs < 1440) : (toUniversal date hour minute offset).2.1 ≤ 23 ∧
      (toUniversal date hour minute offset).2.2 ≤ 59 := by
  unfold toUniversal
  dsimp only
  split
  · dsimp only
    omega
  · split <;>
    · dsimp only
      omega

theorem Instant.read_valid {text : String} (read : Instant.read text = .ok instant) :
    instant.Valid := by
  unfold Instant.read at read
  obtain ⟨⟨year, _⟩, _, read⟩ := bind_eq_ok_iff.mp read
  obtain ⟨_, _, read⟩ := bind_eq_ok_iff.mp read
  obtain ⟨⟨month, _⟩, _, read⟩ := bind_eq_ok_iff.mp read
  obtain ⟨_, _, read⟩ := bind_eq_ok_iff.mp read
  obtain ⟨⟨day, _⟩, _, read⟩ := bind_eq_ok_iff.mp read
  dsimp only at read
  split at read
  · cases read
  · split at read
    · obtain ⟨_, _, read⟩ := bind_eq_ok_iff.mp read
      obtain ⟨⟨hour, _⟩, hours, read⟩ := bind_eq_ok_iff.mp read
      obtain ⟨_, _, read⟩ := bind_eq_ok_iff.mp read
      obtain ⟨⟨minute, _⟩, minutes, read⟩ := bind_eq_ok_iff.mp read
      obtain ⟨_, _, read⟩ := bind_eq_ok_iff.mp read
      obtain ⟨⟨second, _⟩, seconds, read⟩ := bind_eq_ok_iff.mp read
      obtain ⟨⟨nano, _⟩, nanos, read⟩ := bind_eq_ok_iff.mp read
      obtain ⟨⟨offset, rest⟩, _, read⟩ := bind_eq_ok_iff.mp read
      dsimp only at read
      split at read
      · cases read
      split at read
      · cases read
      split at read
      · cases read
      rename_i day_long
      split at read
      · cases read
      rename_i valid
      cases read
      have day_short : offset.natAbs < 1440 := Nat.lt_of_not_le day_long
      obtain ⟨hour_most, minute_most⟩ :=
        toUniversal_bounds (readBetween_ok hours).2 (readBetween_ok minutes).2 day_short
      exact ⟨by simpa using valid, hour_most, minute_most, (readBetween_ok seconds).2,
        readFraction_ok nanos⟩
    · cases read

end DevlogGraph.Time
