import DevlogGraph.Proofs.Decimal.Written
import DevlogGraph.Proofs.Fallible
import DevlogGraph.Proofs.Url.Path
import DevlogGraph.Url

/-! Where the path of an address is written. The authority takes everything in front of the first
slash, question mark or hash sign, whatever it holds, so the path is what follows up to a query or a
fragment. -/
namespace DevlogGraph.Url

namespace Authority

/-- Nothing in the text ends an authority. -/
def Unended (front : List Char) : Prop := ∀ c ∈ front, endsWith true c = false

/-- An authority ends in front of this text. -/
def Ended (rest : List Char) : Prop := ∀ c ∈ rest.head?, endsWith true c = true

/-- The rest is what follows some part of an authority. -/
def Takes (whole rest : List Char) : Prop := ∃ front, whole = front ++ rest ∧ Unended front

theorem Takes.refl (whole : List Char) : Takes whole whole := ⟨[], rfl, by simp [Unended]⟩

theorem Takes.trans (first : Takes whole middle) (second : Takes middle rest) :
    Takes whole rest := by
  obtain ⟨front, rfl, front_unended⟩ := first
  obtain ⟨more, rfl, more_unended⟩ := second
  refine ⟨front ++ more, (List.append_assoc front more rest).symm, ?_⟩
  intro c member
  exact (List.mem_append.mp member).elim (front_unended c) (more_unended c)

/-- What is left of the whole authority is what follows its first ending. -/
theorem Takes.rest_eq (takes : Takes whole rest) (ended : Ended rest) :
    rest = whole.dropWhile fun c => !endsWith true c := by
  obtain ⟨front, rfl, unended⟩ := takes
  have passed : ∀ c ∈ front, (!endsWith true c) = true := by
    intro c member
    rw [unended c member]
    rfl
  rw [List.dropWhile_append_of_pos passed]
  cases rest with
  | nil => rfl
  | cons c later =>
    have stops := ended c rfl
    rw [List.dropWhile_cons_of_neg (by simp [stops])]

private theorem splitUser_takes {whole rest name : List Char}
    (split : splitUser true whole = .ok (name, rest)) : Takes whole rest := by
  have area_takes (size : Nat)
      (inside : size ≤ (whole.takeWhile fun c => !endsWith true c).length) :
      Takes whole (whole.drop size) := by
    refine ⟨whole.take size, (List.take_append_drop size whole).symm, ?_⟩
    intro c member
    have starts : whole.take size <+: whole.takeWhile fun c => !endsWith true c :=
      List.prefix_of_prefix_length_le (List.take_prefix size whole) (List.takeWhile_prefix _)
        (by rw [List.length_take]; omega)
    have passed := List.all_eq_true.mp List.all_takeWhile c (starts.subset member)
    simpa using passed
  unfold splitUser at split
  dsimp only at split
  split at split
  · cases split
    exact Takes.refl _
  · split at split
    · cases split
    · cases split
      exact area_takes _ (Nat.sub_le _ _)

/-- A host goes up to a colon, or to where the authority ends. -/
private theorem splitHost_takes (bracketed : Bool) (whole : List Char) :
    Takes whole (splitHost true bracketed whole).2 ∧
      ((splitHost true bracketed whole).2.head? = some ':' ∨
        Ended (splitHost true bracketed whole).2) := by
  induction whole generalizing bracketed with
  | nil => exact ⟨Takes.refl [], .inr (by simp [splitHost, Ended])⟩
  | cons c later ih =>
    unfold splitHost
    split
    · rename_i stops
      refine ⟨Takes.refl _, ?_⟩
      rcases Bool.or_eq_true_iff.mp stops with colon | ends
      · rw [Bool.and_eq_true, decide_eq_true_eq] at colon
        exact .inl (congrArg some colon.1)
      · refine .inr fun d head => ?_
        rwa [← Option.some.inj head]
    · rename_i onward
      rw [Bool.or_eq_true_iff, not_or, Bool.not_eq_true, Bool.not_eq_true] at onward
      obtain ⟨takes, stops⟩ := ih (if c = '[' then true else if c = ']' then false else bracketed)
      have first : Takes (c :: later) later := ⟨[c], rfl, by simpa [Unended] using onward.2⟩
      exact ⟨first.trans takes, stops⟩

private theorem unended_of_isDigit (digit : Decimal.isDigit c = true) :
    endsWith true c = false := by
  obtain ⟨low, high⟩ := Decimal.isDigit_bounds digit
  rw [Bool.eq_false_iff]
  intro ends
  have choices : c = '/' ∨ c = '?' ∨ c = '#' ∨ c = '\\' := by
    simpa [endsWith, or_assoc] using ends
  rcases choices with rfl | rfl | rfl | rfl <;> revert low high <;> decide

private theorem readPort_takes {whole rest : List Char} {number : Option Nat}
    (found : readPort whole = .ok (number, rest))
    (stops : whole.head? = some ':' ∨ Ended whole) : Takes whole rest ∧ Ended rest := by
  unfold readPort at found
  split at found
  · rename_i behind
    have parts : Takes (':' :: behind) (behind.dropWhile Decimal.isDigit) := by
      refine ⟨':' :: behind.takeWhile Decimal.isDigit, ?_, ?_⟩
      · rw [List.cons_append, List.takeWhile_append_dropWhile]
      · refine List.forall_mem_cons.mpr ⟨by decide, fun c member => ?_⟩
        exact unended_of_isDigit (List.all_eq_true.mp List.all_takeWhile c member)
    have rest_eq : rest = behind.dropWhile Decimal.isDigit ∧ Ended rest := by
      simp only [cutBefore, Bool.not_not] at found
      split at found
      · cases found
      · split at found
        · cases found
        · rename_i ended
          have remains : (behind.dropWhile Decimal.isDigit) = rest := by
            split at found <;> cases found <;> rfl
          rw [remains] at ended
          refine ⟨remains.symm, fun c head => ?_⟩
          rw [Option.mem_def.mp head] at ended
          simpa using ended
    exact ⟨rest_eq.1 ▸ parts, rest_eq.2⟩
  · rename_i other
    cases found
    refine ⟨Takes.refl _, stops.resolve_left ?_⟩
    intro colon
    obtain ⟨later, rfl⟩ := List.head?_eq_some_iff.mp colon
    exact other later rfl

/-- An authority goes up to its first ending. -/
private theorem read_rest {whole rest : List Char} {found : Authority}
    (taken : read whole = .ok (found, rest)) :
    rest = whole.dropWhile fun c => !endsWith true c := by
  obtain ⟨⟨name, behind⟩, user_split, taken⟩ := bind_eq_ok_iff.mp taken
  dsimp only at taken
  split at taken
  · cases taken
  · obtain ⟨host, _, taken⟩ := bind_eq_ok_iff.mp taken
    obtain ⟨⟨number, remaining⟩, port_read, taken⟩ := bind_eq_ok_iff.mp taken
    cases taken
    obtain ⟨host_takes, stops⟩ := splitHost_takes false behind
    obtain ⟨port_takes, ended⟩ := readPort_takes port_read stops
    exact (((splitUser_takes user_split).trans host_takes).trans port_takes).rest_eq ended

end Authority

/-- Where a query or a fragment begins. -/
def endsPath (c : Char) : Bool := c = '?' || c = '#'

/-- The path as it is written, behind the authority and up to a query or a fragment. -/
def writtenPath (address : List Char) : List Char :=
  match splitScheme? (tidy address) with
  | none => []
  | some (_, rest) =>
      ((rest.dropWhile isSlash).dropWhile fun c => !Authority.endsWith true c).takeWhile
        fun c => !endsPath c

private theorem ofRest_path {kind : Scheme} {rest : List Char} {url : Url}
    (found : ofRest kind rest = .ok url) :
    url.path = Path.read (((rest.dropWhile isSlash).dropWhile fun c =>
      !Authority.endsWith true c).takeWhile fun c => !endsPath c) := by
  obtain ⟨⟨authority, behind⟩, taken, made⟩ := bind_eq_ok_iff.mp found
  cases made
  rw [← Authority.read_rest taken]
  rfl

/-- The path of an address is the one that is written in it. -/
theorem read_path {address : List Char} {url : Url} (found : Url.read address = .ok url) :
    url.path = Path.read (writtenPath address) := by
  unfold Url.read at found
  unfold writtenPath
  cases parts : splitScheme? (tidy address) with
  | none =>
    rw [parts] at found
    cases found
  | some both =>
    obtain ⟨name, rest⟩ := both
    simp only [parts] at found
    split at found
    · rename_i kind _
      cases made : ofRest kind rest with
      | error fault =>
        rw [made] at found
        cases found
      | ok same =>
        rw [made] at found
        cases found
        exact ofRest_path made
    · split at found <;> cases found

end DevlogGraph.Url
