import DevlogGraph.Text.Within

/-! What is found anywhere in a text is found behind some beginning of it, and it stays there when
the text grows at either end. -/
namespace DevlogGraph.Text

theorem somewhere_iff {test : List Char → Bool} {text : List Char} :
    somewhere test text = true ↔ ∃ before rest, text = before ++ rest ∧ test rest = true := by
  induction text with
  | nil =>
    constructor
    · intro found
      exact ⟨[], [], rfl, found⟩
    · rintro ⟨before, rest, cut, found⟩
      obtain ⟨rfl, rfl⟩ := List.append_eq_nil_iff.mp cut.symm
      exact found
  | cons c later ih =>
    rw [somewhere, Bool.or_eq_true, ih]
    constructor
    · rintro (here | ⟨before, rest, rfl, found⟩)
      · exact ⟨[], c :: later, rfl, here⟩
      · exact ⟨c :: before, rest, rfl, found⟩
    · rintro ⟨before, rest, cut, found⟩
      cases before with
      | nil =>
        rw [List.nil_append] at cut
        exact .inl (cut ▸ found)
      | cons first others =>
        rw [List.cons_append, List.cons.injEq] at cut
        exact .inr ⟨others, rest, cut.2, found⟩

theorem holds_iff {part text : List Char} :
    holds part text = true ↔ ∃ before after, text = before ++ (part ++ after) := by
  unfold holds
  rw [somewhere_iff]
  constructor
  · rintro ⟨before, rest, rfl, found⟩
    obtain ⟨after, rfl⟩ := List.isPrefixOf_iff_prefix.mp found
    exact ⟨before, after, rfl⟩
  · rintro ⟨before, after, rfl⟩
    exact ⟨before, part ++ after, rfl, List.isPrefixOf_iff_prefix.mpr ⟨after, rfl⟩⟩

theorem holds_append {part text : List Char} (held : holds part text = true) (more : List Char) :
    holds part (text ++ more) = true := by
  obtain ⟨before, after, rfl⟩ := holds_iff.mp held
  exact holds_iff.mpr ⟨before, after ++ more, by simp⟩

end DevlogGraph.Text
