/-! Computations that may fail: what they give, one step after another or for every item of a list. -/
namespace DevlogGraph

theorem toOption_eq_some_iff {made : Except ε α} : made.toOption = some found ↔ made = .ok found := by
  cases made <;> simp [Except.toOption]

theorem bind_eq_ok_iff {first : Except ε α} {next : α → Except ε β} :
    (first >>= next) = .ok found ↔ ∃ value, first = .ok value ∧ next value = .ok found := by
  cases first with
  | error problem => simp [bind, Except.bind]
  | ok value => simp [bind, Except.bind]

theorem ok_bind (value : α) (next : α → Except ε β) : (Except.ok value >>= next) = next value := rfl

theorem toOption_bind (result : Except ε α) (next : α → Except ε β) :
    (result >>= next).toOption = result.toOption.bind fun value => (next value).toOption := by
  cases result <;> rfl

theorem mapM_eq_ok_iff {read : α → Except ε β} {items : List α} {found : List β} :
    items.mapM read = .ok found ↔ items.map (fun item => (read item).toOption) = found.map some := by
  induction items generalizing found with
  | nil => cases found <;> simp [pure, Except.pure]
  | cons item later ih =>
    rw [List.mapM_cons]
    cases found with
    | nil =>
      cases read item <;> cases later.mapM read <;> simp [bind, Except.bind, pure, Except.pure]
    | cons head tail =>
      rw [List.map_cons, List.map_cons, List.cons.injEq, ← ih]
      cases read item <;> cases later.mapM read <;>
        simp [bind, Except.bind, pure, Except.pure, Except.toOption]

theorem mapM_eq_error {read : α → Except ε β} {items : List α} {failure : ε}
    (failed : items.mapM read = .error failure) : ∃ item ∈ items, read item = .error failure := by
  induction items with
  | nil => cases failed
  | cons item later ih =>
    rw [List.mapM_cons] at failed
    cases first : read item with
    | error found =>
      rw [first] at failed
      cases failed
      exact ⟨item, List.mem_cons_self, first⟩
    | ok value =>
      cases rest : later.mapM read with
      | error found =>
        rw [first, rest] at failed
        cases failed
        obtain ⟨other, member, fails⟩ := ih rest
        exact ⟨other, List.mem_cons_of_mem item member, fails⟩
      | ok values =>
        rw [first, rest] at failed
        cases failed

end DevlogGraph
