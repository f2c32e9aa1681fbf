import DevlogGraph.Proofs.Json.SteadySkip

/-! White space behind a text does not count: a record is read as it is from a text that ends with other
white space. -/
namespace DevlogGraph.Json

open Reader Text Decimal

private theorem steady_hasItem (first : Bool) : Steady (hasItem first) := by
  intro front back similar
  unfold hasItem
  refine follows_peekVisible similar (follows_of_none rfl) fun seen c rest left _ _ later short => ?_
  have here : Similar (c :: rest) (c :: left) := .cons c later
  have size : (c :: left).length < back.length + 1 := Nat.succ_lt_succ short
  split
  · exact follows_of_none rfl
  · exact follows_done false here size
  · split
    · exact follows_done true here size
    · split
      · refine Follows.advance (follows_peekVisible later (follows_of_none rfl) ?_) c
        intro next d rest left _ _ behind less
        split
        · exact follows_of_none rfl
        · exact follows_done true (.cons d behind) (by rw [List.length_cons]; omega)
        · exact follows_of_none rfl
      · exact follows_of_none rfl

private theorem steady_hasMember (first : Bool) : Steady (hasMember first) := by
  intro front back similar
  unfold hasMember
  refine follows_peekVisible similar (follows_of_none rfl) fun seen c rest left _ _ later short => ?_
  have here : Similar (c :: rest) (c :: left) := .cons c later
  have size : (c :: left).length < back.length + 1 := Nat.succ_lt_succ short
  split
  · exact follows_of_none rfl
  · exact follows_done false here size
  · split
    · split
      · exact follows_done true here size
      · exact follows_of_none rfl
    · split
      · refine Follows.advance (follows_peekVisible later (follows_of_none rfl) ?_) c
        intro next d rest left _ _ behind less
        split
        · exact follows_done true (.cons d behind) (by rw [List.length_cons]; omega)
        · exact follows_of_none rfl
        · exact follows_of_none rfl
        · exact follows_of_none rfl
      · exact follows_of_none rfl

private theorem steady_colon : Steady colon := by
  intro front back similar
  unfold colon
  refine follows_peekVisible similar (follows_of_none rfl) fun seen c rest left _ _ later short => ?_
  split
  · exact follows_advance later (by omega) c
  · exact follows_of_none rfl
  · exact follows_of_none rfl

/-- A key takes its quote at least. -/
private theorem follows_key (similar : Similar front back) :
    Follows back.length (key front) (key back) := by
  unfold key
  cases similar with
  | spaces left _ =>
    -- what follows white space without a quote leaves nothing behind at all
    have behind : Similar (front.drop 1) [] :=
      .spaces (fun c member => left c (List.mem_of_mem_drop member)) (by simp)
    intro name rest read
    obtain ⟨more, nothing, _⟩ := steady_textTail _ _ behind name rest read
    cases nothing
  | @cons rest more c later => exact (steady_textTail rest more later).advance c

/-- An ending that is found is found in a similar text as well. -/
def SteadyEnding (ending : List Char → Ending) : Prop :=
  ∀ front back, Similar front back → ∀ rest, ending front = ⟨rest, none⟩ →
    ∃ more, ending back = ⟨more, none⟩ ∧ Similar rest more ∧ more.length ≤ back.length

theorem Follows.closed {ending : List Char → Ending} (ends : SteadyEnding ending)
    (follows : Follows bound (reader front) (twin back)) :
    Follows bound (closed ending reader front) (Json.closed ending twin back) := by
  intro value rest read
  rw [result_closed] at read ⊢
  obtain ⟨⟨found, middle⟩, taken, ended⟩ := Option.bind_eq_some_iff.mp read
  obtain ⟨left, twin_taken, similar, short⟩ := follows found middle taken
  rw [twin_taken, Option.bind_some]
  dsimp only at ended ⊢
  split at ended
  · rename_i after closing
    cases ended
    obtain ⟨more, twin_closing, behind, less⟩ := ends middle left similar _ closing
    rw [twin_closing]
    exact ⟨more, rfl, behind, Nat.lt_of_le_of_lt less short⟩
  · cases ended

/-- It is enough that one mark is looked for behind white space. -/
private theorem steadyEnding_of_mark {ending : List Char → Ending} {mark : Char}
    (closes : ∀ text rest, ending text = ⟨rest, none⟩ ↔ text.dropWhile isSpace = mark :: rest) :
    SteadyEnding ending := by
  intro front back similar rest ended
  have shown := (closes front rest).mp ended
  rcases similar.dropSpace with ⟨first, _⟩ | ⟨c, later, more, _, first, second, alike, short⟩
  · rw [first] at shown
    cases shown
  · rw [first] at shown
    cases shown
    exact ⟨more, (closes back more).mpr second, alike, Nat.le_of_lt short⟩

private theorem listEnding_eq_iff (text rest : List Char) :
    listEnding text = ⟨rest, none⟩ ↔ text.dropWhile isSpace = ']' :: rest := by
  unfold listEnding
  generalize text.dropWhile isSpace = behind
  split <;> simp_all

private theorem objectEnding_eq_iff (text rest : List Char) :
    objectEnding text = ⟨rest, none⟩ ↔ text.dropWhile isSpace = '\x7d' :: rest := by
  unfold objectEnding
  generalize text.dropWhile isSpace = behind
  split <;> simp_all

private theorem steady_listEnding :
    SteadyEnding listEnding := steadyEnding_of_mark listEnding_eq_iff

private theorem steady_objectEnding :
    SteadyEnding objectEnding := steadyEnding_of_mark objectEnding_eq_iff

theorem steady_textAs (expected : String) (meaning : String → Except Schema.Mismatch α) :
    Steady (textAs expected meaning) := by
  intro front back similar
  refine Follows.settled (follows_peekVisible similar (follows_of_none rfl) ?_)
  intro seen c rest left _ _ later short
  split
  · exact follows_of_none rfl
  · refine Follows.advance ((steady_textTail rest left later).bind fun held rest more behind less => ?_) c
    cases meaning held with
    | ok value => exact follows_done value behind (by omega)
    | error mismatch => exact follows_of_none rfl
  · exact follows_of_none (result_wrongType _ _)

namespace Layout

variable {layout : Layout σ α}

private theorem follows_finished (state : σ) (similar : Similar front back) :
    Follows (back.length + 1) (layout.finished state front) (layout.finished state back) := by
  unfold finished
  cases layout.finish state with
  | ok value => exact follows_done value similar (Nat.lt_succ_self _)
  | error mismatch => exact follows_of_none rfl

section Fields

variable (steady : ∀ field ∈ layout.fields, ∀ state, Steady (field.read state))
include steady

private theorem steady_member (name : String) (state : σ) : Steady (layout.member name state) := by
  intro front back similar
  unfold member
  cases found : layout.fields.find? fun field => field.name == name with
  | some field =>
    dsimp only
    split
    · exact follows_of_none rfl
    · refine (steady_colon front back similar).bind fun _ rest more later short => ?_
      exact (steady field (List.mem_of_find?_eq_some found) state rest more later).mono short
  | none =>
    dsimp only
    split
    · exact follows_of_none rfl
    · refine (steady_colon front back similar).bind fun _ rest more later short => ?_
      refine (steady_skipValue rest more later).bind fun _ rest more behind less => ?_
      exact follows_done state behind (by omega)

/-- The fuel that is left is enough for the second text, since every member takes a character. -/
private theorem follows_membersFrom (similar : Similar front back) (enough : back.length < more)
    (first : Bool)
    (state : σ) : Follows (back.length + 1) (layout.membersFrom fuel first state front)
      (layout.membersFrom more first state back) := by
  induction fuel generalizing front back more first state with
  | zero => exact follows_of_none rfl
  | succ fuel ih =>
    obtain ⟨more, rfl⟩ := Nat.exists_eq_succ_of_ne_zero (by omega : more ≠ 0)
    rw [membersFrom, membersFrom]
    refine (steady_hasMember first front back similar).bind fun another rest left later short => ?_
    cases another with
    | false => exact (follows_finished state later).mono short
    | true =>
      refine (follows_key later).bind fun name rest middle named size => ?_
      refine (steady_member steady name state rest middle named).bind fun next rest left behind less => ?_
      exact (ih behind (by omega) false next).mono (by omega)

private theorem follows_elementsFrom {fields : List (Slot σ)} (known : fields ⊆ layout.fields)
    (similar : Similar front back) (index : Nat) (state : σ) : Follows (back.length + 1)
      (layout.elementsFrom fields index state front) (layout.elementsFrom fields index state back) := by
  induction fields generalizing front back index state with
  | nil => exact follows_finished state similar
  | cons field others ih =>
    have inside : others ⊆ layout.fields := fun other member => known (List.mem_cons_of_mem field member)
    rw [elementsFrom]
    refine (steady_hasItem _ front back similar).bind fun another rest left later short => ?_
    cases another with
    | true =>
      refine (steady field (known List.mem_cons_self) state rest left later).bind
        fun next rest left behind less => ?_
      exact (ih inside behind (index + 1) next).mono (by omega)
    | false =>
      cases layout.partly with
      | true => exact (ih inside later index state).mono short
      | false => exact follows_of_none rfl

/-- A record of steady fields is steady. -/
theorem steady_read : Steady layout.read := by
  intro front back similar
  refine Follows.settled (follows_peekVisible similar (follows_of_none rfl) ?_)
  intro seen c rest left _ _ later short
  split
  · exact follows_of_none rfl
  · have elements := follows_elementsFrom steady (List.Subset.refl _) later 0 layout.start
    exact ((elements.closed steady_listEnding).mono (by omega)).advance c
  · have members : Follows (left.length + 1)
        (layout.membersFrom (rest.length + 1) true layout.start rest)
        (layout.membersFrom (left.length + 1) true layout.start left) :=
      follows_membersFrom steady later (Nat.lt_succ_self _) true layout.start
    exact ((members.closed steady_objectEnding).mono (by omega)).advance c
  · exact follows_of_none (result_wrongType _ _)

end Fields

end Layout

private theorem nothingMore_spaces (ended : rest.dropWhile isSpace = []) :
    nothingMore rest = .done () [] := by
  rw [nothingMore]
  change Step.bind (.done (rest.dropWhile isSpace).head? (rest.dropWhile isSpace)) _ = _
  rw [ended]
  rfl

private theorem nothingMore_visible (shown : rest.dropWhile isSpace = c :: more) :
    nothingMore rest = failNext .trailingCharacters (c :: more) := by
  rw [nothingMore]
  change Step.bind (.done (rest.dropWhile isSpace).head? (rest.dropWhile isSpace)) _ = _
  rw [shown]
  rfl

/-- A whole text is read if nothing but white space is left. -/
theorem readAll_ok_iff {reader : Reader α} {whole : α} : readAll reader front = .ok whole ↔
    ∃ rest : List Char, (reader front).result = some (whole, rest) ∧ rest.dropWhile isSpace = [] := by
  unfold readAll
  cases reader front with
  | done found rest =>
    simp only [Step.settle, result_done]
    cases cut : rest.dropWhile isSpace with
    | nil =>
      rw [nothingMore_spaces cut]
      constructor
      · rintro ⟨⟩
        exact ⟨rest, rfl, cut⟩
      · rintro ⟨_, ⟨⟩, _⟩
        rfl
    | cons c more =>
      rw [nothingMore_visible cut]
      constructor
      · intro read
        cases read
      · rintro ⟨_, ⟨⟩, ended⟩
        rw [cut] at ended
        cases ended
  | stuck fault => simp [Step.settle, Step.result]
  | refused found rest => simp [Step.settle, Step.result]

/-- White space behind a text does not change what is read of it. -/
theorem Steady.readAll {reader : Reader α} (steady : Steady reader) (similar : Similar front back) :
    (readAll reader front).toOption = (readAll reader back).toOption := by
  have onward {front back : List Char} (similar : Similar front back) (value : α)
      (read : Json.readAll reader front = .ok value) : Json.readAll reader back = .ok value := by
    obtain ⟨rest, taken, ended⟩ := readAll_ok_iff.mp read
    obtain ⟨more, twin_taken, alike, _⟩ := steady front back similar value rest taken
    refine readAll_ok_iff.mpr ⟨more, twin_taken, ?_⟩
    rcases alike.dropSpace with ⟨_, twin_ended⟩ | ⟨c, later, _, _, visible, _⟩
    · exact twin_ended
    · rw [ended] at visible
      cases visible
  cases first : Json.readAll reader front with
  | ok value => rw [onward similar value first]
  | error fault =>
    cases second : Json.readAll reader back with
    | ok value =>
      rw [onward similar.symm value second] at first
      cases first
    | error other => rfl

end DevlogGraph.Json
