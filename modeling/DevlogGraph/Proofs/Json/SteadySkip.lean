import DevlogGraph.Proofs.Json.SteadyText

/-! A value is passed over alike in texts that differ in the white space at the end, as long as there is
fuel for the length of the text. -/
namespace DevlogGraph.Json

open Reader Text Decimal

private theorem isExponentMark_visible (mark : isExponentMark c = true) : isSpace c = false :=
  visible_of_test (by decide) mark

private theorem Similar.dropDigits (similar : Similar front back) :
    Similar (front.dropWhile isDigit) (back.dropWhile isDigit) :=
  similar.dropWhile fun _ digit => isSpace_of_isDigit digit

private theorem length_dropWhile_le (test : Char → Bool) (back : List Char) :
    (back.dropWhile test).length ≤ back.length :=
  (List.dropWhile_sublist test).length_le

/-- An exponent without its sign. -/
def withoutSign (text : List Char) : List Char :=
  match text with
  | '+' :: rest => rest
  | '-' :: rest => rest
  | rest => rest

def skipDigits : Reader Unit := fun text =>
  match text with
  | [] => .stuck ⟨.invalidNumber, 0⟩
  | c :: rest =>
      if isDigit c then .done () (rest.dropWhile isDigit) else .stuck ⟨.invalidNumber, byteCount text - 1⟩

private theorem skipExponent_eq (text : List Char) :
    skipExponent text = skipDigits (withoutSign text) := rfl

private theorem similar_withoutSign (similar : Similar front back) :
    Similar (withoutSign front) (withoutSign back) := by
  cases similar with
  | spaces left right =>
    have stays {spaces : List Char} (space : ∀ c ∈ spaces, isSpace c = true) :
        withoutSign spaces = spaces := by
      unfold withoutSign
      split
      · exact absurd (space '+' List.mem_cons_self) (by decide)
      · exact absurd (space '-' List.mem_cons_self) (by decide)
      · rfl
    rw [stays left, stays right]
    exact .spaces left right
  | @cons rest more c later =>
    by_cases plus : c = '+'
    · subst plus
      exact later
    · by_cases minus : c = '-'
      · subst minus
        exact later
      · have stays (rest : List Char) : withoutSign (c :: rest) = c :: rest := by
          unfold withoutSign
          split
          · rename_i same
            exact absurd (List.cons.inj same).1 plus
          · rename_i same
            exact absurd (List.cons.inj same).1 minus
          · rfl
        rw [stays, stays]
        exact .cons c later

private theorem length_withoutSign_le (back : List Char) :
    (withoutSign back).length ≤ back.length := by
  unfold withoutSign
  split <;> simp

private theorem steady_skipDigits : Steady skipDigits := by
  intro front back similar
  cases front with
  | nil => exact follows_of_none rfl
  | cons c rest =>
    unfold skipDigits
    dsimp only
    split
    · rename_i digit
      obtain ⟨more, rfl, later⟩ := similar.visible (isSpace_of_isDigit digit)
      dsimp only
      rw [if_pos digit]
      refine follows_done () later.dropDigits ?_
      have size := length_dropWhile_le isDigit more
      rw [List.length_cons]
      omega
    · exact follows_of_none rfl

private theorem steady_skipExponent : Steady skipExponent := by
  intro front back similar
  have size := length_withoutSign_le back
  rw [skipExponent_eq, skipExponent_eq]
  exact (steady_skipDigits _ _ (similar_withoutSign similar)).mono (by omega)

/-- What may follow the digits behind the point, or the digits without a point. -/
def skipMark : Reader Unit := fun text =>
  match text with
  | mark :: after => if isExponentMark mark then skipExponent after else .done () (mark :: after)
  | [] => .done () []

private theorem steady_skipMark : Steady skipMark := by
  intro front back similar
  have stays {spaces : List Char} (space : ∀ c ∈ spaces, isSpace c = true) :
      skipMark spaces = .done () spaces := by
    cases spaces with
    | nil => rfl
    | cons c rest =>
      have plain : ¬ isExponentMark c = true := fun mark => by
        have hidden := space c List.mem_cons_self
        rw [isExponentMark_visible mark] at hidden
        cases hidden
      exact if_neg plain
  cases similar with
  | spaces left right =>
    rw [stays left, stays right]
    exact follows_done () (.spaces left right) (Nat.lt_succ_self _)
  | @cons rest more c later =>
    unfold skipMark
    dsimp only
    split
    · exact (steady_skipExponent rest more later).mono (Nat.le_succ _)
    · exact follows_done () (.cons c later) (Nat.lt_succ_self _)

private theorem skipFraction_point (rest : List Char) : skipFraction ('.' :: rest) =
    if !rest.head?.any isDigit then .stuck ⟨.invalidNumber, byteCount rest - 1⟩
    else skipMark (rest.dropWhile isDigit) := by
  rfl

private theorem skipFraction_plain {front : List Char} (plain : ∀ rest, front ≠ '.' :: rest) :
    skipFraction front = skipMark front := by
  cases front with
  | nil => rfl
  | cons c rest =>
    unfold skipFraction
    split
    · rename_i same
      exact absurd same (plain _)
    · rename_i same
      cases same
      rfl
    · rename_i same
      cases same

private theorem steady_skipFraction : Steady skipFraction := by
  intro front back similar
  by_cases point : ∃ rest, front = '.' :: rest
  · obtain ⟨rest, rfl⟩ := point
    obtain ⟨more, rfl, later⟩ := similar.visible (by decide)
    rw [skipFraction_point, skipFraction_point, later.head_any fun _ digit => isSpace_of_isDigit digit]
    split
    · exact follows_of_none rfl
    · have size := length_dropWhile_le isDigit more
      refine (steady_skipMark _ _ later.dropDigits).mono ?_
      rw [List.length_cons]
      omega
  · have plain : ∀ rest, front ≠ '.' :: rest := fun rest same => point ⟨rest, same⟩
    have twin_plain : ∀ rest, back ≠ '.' :: rest := by
      rintro rest rfl
      obtain ⟨more, same, _⟩ := similar.symm.visible (by decide)
      exact plain more same
    rw [skipFraction_plain plain, skipFraction_plain twin_plain]
    exact steady_skipMark front back similar

private theorem skipNumber_zero (rest : List Char) : skipNumber ('0' :: rest) =
    if rest.head?.any isDigit then .stuck ⟨.invalidNumber, byteCount rest - 1⟩
    else skipFraction rest := rfl

private theorem skipNumber_other (other : c ≠ '0') (rest : List Char) : skipNumber (c :: rest) =
    if isDigit c then skipFraction (rest.dropWhile isDigit)
    else .stuck ⟨.invalidNumber, byteCount (c :: rest) - 1⟩ := by
  rw [skipNumber]
  exact fun same => other same

private theorem steady_skipNumber : Steady skipNumber := by
  intro front back similar
  cases front with
  | nil => exact follows_of_none rfl
  | cons c rest =>
    by_cases zero : c = '0'
    · subst zero
      obtain ⟨more, rfl, later⟩ := similar.visible (by decide)
      rw [skipNumber_zero, skipNumber_zero, later.head_any fun _ digit => isSpace_of_isDigit digit]
      split
      · exact follows_of_none rfl
      · exact (steady_skipFraction rest more later).mono (Nat.le_succ _)
    · rw [skipNumber_other zero]
      split
      · rename_i digit
        obtain ⟨more, rfl, later⟩ := similar.visible (isSpace_of_isDigit digit)
        have size := length_dropWhile_le isDigit more
        rw [skipNumber_other zero, if_pos digit]
        refine (steady_skipFraction _ _ later.dropDigits).mono ?_
        rw [List.length_cons]
        omega
      · exact follows_of_none rfl

/-- With enough fuel for the second text, the second reader follows the first one. -/
structure SteadySkips (fuel : Nat) : Prop where
  value : ∀ front back, Similar front back → ∀ more, 2 * back.length + 1 ≤ more →
    Follows (back.length + 1) (skipValueWithin fuel front) (skipValueWithin more back)
  items : ∀ front back, Similar front back → ∀ more, 2 * back.length + 2 ≤ more →
    Follows (back.length + 1) (skipItemsWithin fuel front) (skipItemsWithin more back)
  members : ∀ front back, Similar front back → ∀ more, 2 * back.length + 2 ≤ more →
    Follows (back.length + 1) (skipMembersWithin fuel front) (skipMembersWithin more back)

private theorem SteadySkips.value_succ (steady : SteadySkips fuel) (similar : Similar front back)
    (enough : 2 * back.length + 1 ≤ more) :
    Follows (back.length + 1) (skipValueWithin (fuel + 1) front) (skipValueWithin more back) := by
  obtain ⟨more, rfl⟩ := Nat.exists_eq_succ_of_ne_zero (by omega : more ≠ 0)
  rw [skipValueWithin, skipValueWithin]
  refine follows_peekVisible similar (follows_of_none rfl) fun seen c rest left shown visible later short => ?_
  split
  case h_1 => cases shown
  case h_2 => exact ((steady_word (by decide) rest left later).mono (by omega)).advance c
  case h_3 => exact ((steady_word (by decide) rest left later).mono (by omega)).advance c
  case h_4 => exact ((steady_word (by decide) rest left later).mono (by omega)).advance c
  case h_5 => exact ((steady_skipNumber rest left later).mono (by omega)).advance c
  case h_6 => exact ((steady_skipTextBody 0 rest left later).mono (by omega)).advance c
  case h_7 =>
    refine Follows.advance (follows_peekVisible later (follows_of_none rfl) ?_) c
    intro next d rest left _ _ behind shorter
    split
    · exact follows_advance behind (by omega) d
    · exact follows_of_none rfl
    · refine (steady.items _ _ (.cons d behind) more ?_).mono ?_
      all_goals
        rw [List.length_cons]
        omega
  case h_8 =>
    refine Follows.advance (follows_peekVisible later (follows_of_none rfl) ?_) c
    intro next d rest left _ _ behind shorter
    split
    · exact follows_advance behind (by omega) d
    · exact follows_of_none rfl
    · refine (steady.members _ _ (.cons d behind) more ?_).mono ?_
      all_goals
        rw [List.length_cons]
        omega
  case h_9 =>
    split
    · refine (steady_skipNumber _ _ (.cons c later)).mono ?_
      rw [List.length_cons]
      omega
    · exact follows_of_none rfl

private theorem SteadySkips.items_succ (steady : SteadySkips fuel) (similar : Similar front back)
    (enough : 2 * back.length + 2 ≤ more) :
    Follows (back.length + 1) (skipItemsWithin (fuel + 1) front) (skipItemsWithin more back) := by
  obtain ⟨more, rfl⟩ := Nat.exists_eq_succ_of_ne_zero (by omega : more ≠ 0)
  rw [skipItemsWithin, skipItemsWithin]
  refine (steady.value front back similar more (by omega)).bind fun _ front' back' middle size => ?_
  refine follows_peekVisible middle (follows_of_none rfl) fun seen c rest left _ _ later short => ?_
  split
  · exact ((steady.items rest left later more (by omega)).mono (by omega)).advance c
  · exact follows_advance later (by omega) c
  · exact follows_of_none rfl
  · exact follows_of_none rfl

private theorem SteadySkips.members_succ (steady : SteadySkips fuel) (similar : Similar front back)
    (enough : 2 * back.length + 2 ≤ more) :
    Follows (back.length + 1) (skipMembersWithin (fuel + 1) front) (skipMembersWithin more back) := by
  obtain ⟨more, rfl⟩ := Nat.exists_eq_succ_of_ne_zero (by omega : more ≠ 0)
  rw [skipMembersWithin, skipMembersWithin]
  refine follows_peekVisible similar (follows_of_none rfl) fun seen c rest left _ _ quoted short => ?_
  split
  case h_1 =>
    refine Follows.advance ((steady_skipTextBody 0 rest left quoted).bind ?_) c
    intro _ rest left named size
    refine follows_peekVisible named (follows_of_none rfl) fun seen c rest left _ _ later shorter => ?_
    split
    case h_1 =>
      refine Follows.advance ((steady.value rest left later more (by omega)).bind ?_) c
      intro _ rest left passed size
      refine follows_peekVisible passed (follows_of_none rfl) fun seen c rest left _ _ behind less => ?_
      split
      · exact ((steady.members rest left behind more (by omega)).mono (by omega)).advance c
      · exact follows_advance behind (by omega) c
      · exact follows_of_none rfl
      · exact follows_of_none rfl
    all_goals exact follows_of_none rfl
  all_goals exact follows_of_none rfl

theorem steadySkips (fuel : Nat) : SteadySkips fuel := by
  induction fuel with
  | zero =>
    exact ⟨fun _ _ _ _ _ => follows_of_none rfl, fun _ _ _ _ _ => follows_of_none rfl,
      fun _ _ _ _ _ => follows_of_none rfl⟩
  | succ fuel ih =>
    exact ⟨fun _ _ similar _ enough => ih.value_succ similar enough,
      fun _ _ similar _ enough => ih.items_succ similar enough,
      fun _ _ similar _ enough => ih.members_succ similar enough⟩

theorem steady_skipValue : Steady skipValue := fun front back similar =>
  (steadySkips (2 * front.length + 2)).value front back similar (2 * back.length + 2) (Nat.le_succ _)

end DevlogGraph.Json
