import DevlogGraph.Proofs.Pattern.Split

/-! Expressions with repetitions and groups, matched by trying one way after another until all of a
text is taken. The order in which ways are tried decides what the groups hold. -/
namespace DevlogGraph.Pattern

inductive Expression where
  | one (test : Char → Bool)
  /-- Any number of characters: a greedy repetition tries to take more before it tries to stop. -/
  | many (greedy : Bool) (test : Char → Bool)
  | both (first second : Expression)
  /-- The inner expression, or nothing if that leads nowhere. -/
  | maybe (inner : Expression)
  | group (index : Nat) (inner : Expression)

/-- What the groups have taken, in the order in which they were opened. -/
abbrev Groups := List (Nat × List Char)

namespace Expression

def runMany (greedy : Bool) (test : Char → Bool) (next : List Char → Option β) :
    List Char → Option β
  | [] => next []
  | c :: rest =>
      let more := if test c then runMany greedy test next rest else none
      if greedy then more.or (next (c :: rest)) else (next (c :: rest)).or more

/-- Match at the start of a text and go on with what is left; the first way that leads to an answer
is taken. -/
def run : Expression → (Groups → List Char → Option β) → List Char → Option β
  | one test, next, text =>
      match text with
      | c :: rest => if test c then next [] rest else none
      | [] => none
  | many greedy test, next, text => runMany greedy test (next []) text
  | both first second, next, text =>
      first.run (fun early rest => second.run (fun late after => next (early ++ late) after) rest)
        text
  | maybe inner, next, text => (inner.run next text).or (next [] text)
  | group index inner, next, text =>
      inner.run (fun inside rest =>
        next ((index, text.take (text.length - rest.length)) :: inside) rest) text

/-- Match all of a text. -/
def full (expression : Expression) (text : List Char) : Option Groups :=
  expression.run (fun groups rest => if rest.isEmpty then some groups else none) text

/-- One or more characters. -/
def several (greedy : Bool) (test : Char → Bool) : Expression := both (one test) (many greedy test)

private theorem runMany_map (greedy : Bool) (test : Char → Bool) (next : List Char → Option β)
    (make : β → γ)
    (text : List Char) : runMany greedy test (fun rest => (next rest).map make) text =
      (runMany greedy test next text).map make := by
  induction text with
  | nil => rfl
  | cons c rest ih =>
    rw [runMany, runMany, ih]
    cases test c <;> cases greedy <;> simp [Option.map_or]

/-- What is made of an answer in the end has no influence on the match. -/
private theorem run_map (expression : Expression) (next : Groups → List Char → Option β)
    (make : β → γ)
    (text : List Char) : expression.run (fun groups rest => (next groups rest).map make) text =
      (expression.run next text).map make := by
  induction expression generalizing next text with
  | one test =>
    cases text with
    | nil => rfl
    | cons c rest =>
      rw [run, run]
      cases test c <;> rfl
  | many greedy test => exact runMany_map greedy test (next []) make text
  | both first second ih_first ih_second =>
    rw [run, run, ← ih_first]
    congr 1
    funext early rest
    exact ih_second _ rest
  | maybe inner ih => rw [run, run, ih, Option.map_or]
  | group index inner ih => exact ih _ text

theorem full_one (test : Char → Bool) (later : Expression) (c : Char) (rest : List Char) :
    full (both (one test) later) (c :: rest) = if test c then full later rest else none := rfl

theorem full_one_nil (test : Char → Bool) (later : Expression) :
    full (both (one test) later) [] = none := rfl

theorem full_many (greedy : Bool) (test : Char → Bool) (later : Expression) (text : List Char) :
    full (both (many greedy test) later) text = runMany greedy test (full later) text := rfl

theorem full_maybe (inner later : Expression) (text : List Char) :
    full (both (maybe inner) later) text =
      (full (both inner later) text).or (full later text) := rfl

theorem full_both (first later : Expression) (text : List Char) :
    full (both first later) text =
      first.run (fun early rest => (full later rest).map (early ++ ·)) text := by
  rw [full, run]
  congr 1
  funext early rest
  rw [full, ← run_map]
  congr 1
  funext late after
  cases after.isEmpty <;> rfl

/-- Only the matches of all of a text count for what stands behind. -/
theorem full_congr {later other : Expression} (same : ∀ text, full later text = full other text)
    (first : Expression) (text : List Char) :
    full (both first later) text = full (both first other) text := by
  rw [full_both, full_both]
  congr 1
  funext early rest
  rw [same]

theorem full_assoc (first second later : Expression) (text : List Char) :
    full (both (both first second) later) text = full (both first (both second later)) text := by
  simp only [full, run, List.append_assoc]

theorem full_group (index : Nat) (inner later : Expression) (text : List Char) :
    full (both (group index inner) later) text =
      inner.run (fun inside rest => (full later rest).map
        ((index, text.take (text.length - rest.length)) :: inside ++ ·)) text := by
  rw [full_both, run]

/-- A greedy repetition takes all it can if nothing else leads on. -/
theorem runMany_greedy (test : Char → Bool) (next : List Char → Option β)
    (forced : ∀ c rest, test c = true → next (c :: rest) = none) (text : List Char) :
    runMany true test next text = next (text.dropWhile test) := by
  induction text with
  | nil => rfl
  | cons c rest ih =>
    rw [runMany, ih, List.dropWhile_cons]
    cases taken : test c with
    | false => simp
    | true => simp [forced c rest taken]

/-- A greedy repetition that can go on after all it can take has taken that. -/
theorem runMany_greedy_all (test : Char → Bool) {next : List Char → Option β} {text : List Char}
    (reads : next (text.dropWhile test) = some found) :
    runMany true test next text = some found := by
  induction text with
  | nil => exact reads
  | cons c rest ih =>
    rw [List.dropWhile_cons] at reads
    rw [runMany]
    cases taken : test c with
    | false =>
      rw [taken] at reads
      simpa using reads
    | true =>
      rw [taken] at reads
      simp [ih reads]

/-- A repetition goes on after some part of the text that it could take. -/
theorem runMany_sound {greedy : Bool} {test : Char → Bool} {next : List Char → Option β}
    {text : List Char} (reads : runMany greedy test next text = some found) :
    ∃ front back, text = front ++ back ∧ (∀ c ∈ front, test c = true) ∧ next back = some found := by
  induction text with
  | nil => exact ⟨[], [], rfl, by simp, reads⟩
  | cons c rest ih =>
    by_cases here : next (c :: rest) = some found
    · exact ⟨[], c :: rest, rfl, by simp, here⟩
    · have more : test c = true ∧ runMany greedy test next rest = some found := by
        rw [runMany] at reads
        cases greedy <;> simp_all [Option.or_eq_some_iff]
      obtain ⟨front, back, parts, taken, after⟩ := ih more.2
      exact ⟨c :: front, back, by rw [parts, List.cons_append],
        List.forall_mem_cons.mpr ⟨more.1, taken⟩, after⟩

private theorem take_front (front : List Char) (c : Char) (rest : List Char) :
    (front ++ c :: rest).take ((front ++ c :: rest).length - rest.length) = front ++ [c] := by
  have parts : front ++ c :: rest = (front ++ [c]) ++ rest := by simp
  rw [parts, List.length_append, Nat.add_sub_cancel, List.take_left]

private theorem runMany_lazy (test : Char → Bool) (read : List Char → Option β)
    (make : List Char → β → γ) {rest : List Char} (passed : ∀ c ∈ rest, test c = true)
    (front : List Char) (d : Char) :
    runMany false test (fun after => (read after).map
        (make ((front ++ d :: rest).take ((front ++ d :: rest).length - after.length)))) rest =
      (splitFirst read (d :: rest)).map fun (before, found) => make (front ++ before) found := by
  induction rest generalizing front d with
  | nil =>
    rw [runMany, splitFirst, take_front]
    cases read [] <;> rfl
  | cons c more ih =>
    obtain ⟨here, later⟩ := List.forall_mem_cons.mp passed
    have ahead := ih later (front ++ [d]) c
    rw [List.append_assoc, List.singleton_append] at ahead
    rw [runMany, splitFirst, take_front, here]
    simp only [if_true, ahead]
    cases read (c :: more) with
    | some found => rfl
    | none => cases splitFirst read (c :: more) <;> simp

/-- A greedy group takes all it can if nothing else leads on. -/
theorem full_greedy_group (test : Char → Bool) (index : Nat) (later : Expression)
    (forced : ∀ c rest, test c = true → full later (c :: rest) = none) (text : List Char) :
    full (both (group index (many true test)) later) text =
      (full later (text.dropWhile test)).map ((index, text.takeWhile test) :: ·) := by
  have taken : text.take (text.length - (text.dropWhile test).length) = text.takeWhile test := by
    have parts : text.takeWhile test ++ text.dropWhile test = text :=
      List.takeWhile_append_dropWhile
    have sizes := congrArg List.length parts
    rw [List.length_append] at sizes
    have size : text.length - (text.dropWhile test).length = (text.takeWhile test).length := by
      omega
    rw [size]
    exact List.prefix_iff_eq_take.mp (List.takeWhile_prefix test) |>.symm
  rw [full_group, run, runMany_greedy, taken]
  · rfl
  · intro c rest here
    rw [forced c rest here]
    rfl

/-- A lazy group ends at the first place from which the rest can be matched. -/
theorem full_lazy_group (test : Char → Bool) (index : Nat) (later : Expression) {text : List Char}
    (passed : ∀ c ∈ text, test c = true) :
    full (both (group index (several false test)) later) text =
      (splitFirst (full later) text).map fun (before, found) => (index, before) :: found := by
  rw [full_group, several, run]
  cases text with
  | nil => rfl
  | cons c rest =>
    obtain ⟨here, others⟩ := List.forall_mem_cons.mp passed
    rw [run, here]
    exact runMany_lazy test (full later) (fun before found => (index, before) :: found) others [] c

end Expression

end DevlogGraph.Pattern
