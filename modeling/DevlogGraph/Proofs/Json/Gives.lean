import DevlogGraph.Proofs.Json.Record

/-! What is true of everything that a reader gives, whatever text it is given. A record keeps what each
of its fields keeps. -/
namespace DevlogGraph.Json

open Reader Schema

/-- Whatever is read is good. -/
def Gives (reader : Reader α) (Good : α → Prop) : Prop :=
  ∀ start found rest, (reader start).result = some (found, rest) → Good found

variable {α : Type} {Good : α → Prop}

theorem Gives.readAll {reader : Reader α} (gives : Gives reader Good)
    (read : readAll reader start = .ok found) : Good found := by
  unfold Json.readAll at read
  cases step : reader start with
  | done whole rest =>
    rw [step] at read
    have same : whole = found := by
      dsimp only [Step.settle] at read
      split at read
      · cases read
      · exact Except.ok.inj read
    subst same
    exact gives start whole rest (by rw [step, result_done])
  | stuck fault =>
    rw [step] at read
    cases read
  | refused fault rest =>
    rw [step] at read
    cases read

theorem gives_textAs {meaning : String → Except Mismatch α} (expected : String)
    (good : ∀ held found, meaning held = .ok found → Good found) :
    Gives (textAs expected meaning) Good := by
  intro start found rest read
  rw [textAs, result_settled, result_bind, result_peekVisible, Option.bind_some] at read
  dsimp only at read
  generalize (start.dropWhile isSpace).head? = next at read
  split at read
  · cases read
  · rw [result_bind, Option.bind_eq_some_iff] at read
    obtain ⟨_, _, read⟩ := read
    rw [result_bind, Option.bind_eq_some_iff] at read
    obtain ⟨⟨held, behind⟩, _, read⟩ := read
    dsimp only at read
    cases meant : meaning held with
    | ok whole =>
      rw [meant] at read
      cases read
      exact good held _ meant
    | error mismatch =>
      rw [meant] at read
      cases read
  · rw [result_wrongType] at read
    cases read

namespace Layout

variable {σ : Type} {layout : Layout σ α} {Kept : σ → Prop}

/-- Each field keeps a property of the state. -/
def Keeps (layout : Layout σ α) (Kept : σ → Prop) : Prop :=
  ∀ field ∈ layout.fields, ∀ state, Kept state → Gives (field.read state) Kept

private theorem gives_finished
    (made : ∀ state found, Kept state → layout.finish state = .ok found → Good found)
    (kept : Kept state) : Gives (layout.finished state) Good := by
  intro start found rest read
  rw [result_finished, Option.map_eq_some_iff] at read
  obtain ⟨value, known, same⟩ := read
  cases same
  exact made state found kept (outcome_eq_some_iff.mp known)

private theorem gives_member (keeps : layout.Keeps Kept) (name : String) (kept : Kept state) :
    Gives (layout.member name state) Kept := by
  intro start next rest read
  rw [member] at read
  cases known : layout.fields.find? fun field => field.name == name with
  | some field =>
    rw [known] at read
    dsimp only at read
    split at read
    · cases read
    · rw [result_bind, Option.bind_eq_some_iff] at read
      obtain ⟨_, _, read⟩ := read
      exact keeps field (List.mem_of_find?_eq_some known) state kept _ next rest read
  | none =>
    rw [known] at read
    dsimp only at read
    split at read
    · cases read
    · simp only [result_bind, Option.bind_eq_some_iff, result_pure] at read
      obtain ⟨_, _, _, _, same⟩ := read
      cases same
      exact kept

private theorem gives_membersFrom (keeps : layout.Keeps Kept)
    (made : ∀ state found, Kept state → layout.finish state = .ok found → Good found) (fuel : Nat)
    (first : Bool) (kept : Kept state) : Gives (layout.membersFrom fuel first state) Good := by
  induction fuel generalizing first state with
  | zero =>
    intro start found rest read
    cases read
  | succ fuel ih =>
    intro start found rest read
    rw [membersFrom, result_bind, Option.bind_eq_some_iff] at read
    obtain ⟨⟨more, behind⟩, _, read⟩ := read
    cases more with
    | false => exact gives_finished made kept behind found rest read
    | true =>
      simp only [if_true, result_bind, Option.bind_eq_some_iff] at read
      obtain ⟨⟨name, _⟩, _, ⟨next, _⟩, taken, read⟩ := read
      exact ih false (gives_member keeps name kept _ next _ taken) _ found rest read

private theorem gives_elementsFrom (keeps : layout.Keeps Kept)
    (made : ∀ state found, Kept state → layout.finish state = .ok found → Good found)
    {fields : List (Slot σ)} (known : fields ⊆ layout.fields) (index : Nat) (kept : Kept state) :
    Gives (layout.elementsFrom fields index state) Good := by
  induction fields generalizing index state with
  | nil => exact gives_finished made kept
  | cons field later ih =>
    obtain ⟨here, others⟩ := List.cons_subset.mp known
    intro start found rest read
    rw [elementsFrom, result_bind, Option.bind_eq_some_iff] at read
    obtain ⟨⟨more, behind⟩, _, read⟩ := read
    cases more with
    | true =>
      simp only [if_true, result_bind, Option.bind_eq_some_iff] at read
      obtain ⟨⟨next, _⟩, taken, read⟩ := read
      exact ih others _ (keeps field here state kept _ next _ taken) _ found rest read
    | false =>
      dsimp only at read
      rw [if_neg (by simp)] at read
      split at read
      · exact ih others index kept behind found rest read
      · cases read

theorem gives (keeps : layout.Keeps Kept) (begun : Kept layout.start)
    (made : ∀ state found, Kept state → layout.finish state = .ok found → Good found) :
    Gives layout.read Good := by
  have of_closed (ending : List Char → Ending) {reader : Reader α} (good : Gives reader Good) :
      Gives (Json.closed ending reader) Good := by
    intro start found rest read
    rw [result_closed, Option.bind_eq_some_iff] at read
    obtain ⟨⟨value, behind⟩, inside, read⟩ := read
    dsimp only at read
    split at read
    · cases read
      exact good start found behind inside
    · cases read
  intro start found rest read
  rw [Layout.read, result_settled, result_bind, result_peekVisible, Option.bind_some] at read
  dsimp only at read
  generalize (start.dropWhile isSpace).head? = next at read
  split at read
  · cases read
  · rw [result_bind, Option.bind_eq_some_iff] at read
    obtain ⟨_, _, read⟩ := read
    exact of_closed listEnding (gives_elementsFrom keeps made (List.Subset.refl _) 0 begun) _ found rest
      read
  · rw [result_bind, Option.bind_eq_some_iff] at read
    obtain ⟨_, _, read⟩ := read
    refine of_closed objectEnding ?_ _ found rest read
    intro start found rest read
    exact gives_membersFrom keeps made _ true begun start found rest read
  · rw [result_wrongType] at read
    cases read

end Layout

end DevlogGraph.Json
