import DevlogGraph.Pattern.Arrow

/-! Lines are cut at the first place, past their first character, where something can be read. -/
namespace DevlogGraph.Pattern

variable {β : Type} {read : List Char → Option β}

/-- Split at the first place past the first character where something can be read. -/
def splitFirst (read : List Char → Option β) : List Char → Option (List Char × β)
  | [] => none
  | c :: rest =>
      match read rest with
      | some found => some ([c], found)
      | none => (splitFirst read rest).map fun (before, found) => (c :: before, found)

theorem splitArrow_eq (text : List Char) : splitArrow text = splitFirst arrowTarget? text := by
  induction text with
  | nil => rfl
  | cons c rest ih =>
    rw [splitArrow, splitFirst, ih]
    cases arrowTarget? rest <;> rfl

theorem splitKind_eq (text : List Char) : splitKind text =
    match splitFirst parenthesised? text with
    | some (before, kind) => (before, some kind)
    | none => (text, none) := by
  induction text with
  | nil => rfl
  | cons c rest ih =>
    rw [splitKind, splitFirst]
    cases parenthesised? rest with
    | some kind => rfl
    | none =>
      rw [ih]
      cases splitFirst parenthesised? rest <;> rfl

theorem splitFirst_sound (split : splitFirst read text = some (before, found)) :
    ∃ after, text = before ++ after ∧ before ≠ [] ∧ read after = some found := by
  induction text generalizing before with
  | nil => cases split
  | cons c rest ih =>
    unfold splitFirst at split
    cases here : read rest with
    | some value =>
      rw [here] at split
      cases split
      exact ⟨rest, rfl, by simp, here⟩
    | none =>
      rw [here] at split
      obtain ⟨⟨earlier, value⟩, later, same⟩ := Option.map_eq_some_iff.mp split
      cases same
      obtain ⟨after, cut, _, reads⟩ := ih later
      exact ⟨after, by rw [cut, List.cons_append], by simp, reads⟩

/-- If something can be read behind `before`, and nowhere earlier, the text is cut there. -/
theorem splitFirst_complete (some_before : before ≠ []) (reads : read after = some found)
    (quiet : ∀ first second, before = first ++ second → first ≠ [] → second ≠ [] →
      read (second ++ after) = none) :
    splitFirst read (before ++ after) = some (before, found) := by
  induction before with
  | nil => exact absurd rfl some_before
  | cons c rest ih =>
    rw [List.cons_append, splitFirst]
    cases rest with
    | nil =>
      rw [List.nil_append, reads]
    | cons next others =>
      have none_here := quiet [c] (next :: others) rfl (by simp) (by simp)
      have none_later : ∀ first second, next :: others = first ++ second → first ≠ [] →
          second ≠ [] → read (second ++ after) = none := by
        intro first second cut _ nonempty
        exact quiet (c :: first) second (by rw [cut, List.cons_append]) (by simp) nonempty
      rw [none_here, ih (by simp) none_later]
      rfl

/-- If something can be read behind `before`, the text is cut there or earlier. -/
theorem splitFirst_prefix (some_before : before ≠ []) (reads : (read after).isSome = true) :
    ∃ front found, splitFirst read (before ++ after) = some (front, found) ∧ front <+: before := by
  induction before with
  | nil => exact absurd rfl some_before
  | cons c rest ih =>
    rw [List.cons_append, splitFirst]
    cases here : read (rest ++ after) with
    | some found => exact ⟨[c], found, rfl, rest, rfl⟩
    | none =>
      cases rest with
      | nil =>
        rw [List.nil_append] at here
        rw [here] at reads
        cases reads
      | cons next others =>
        obtain ⟨front, found, split, inside⟩ := ih (by simp)
        rw [split]
        exact ⟨c :: front, found, rfl, List.cons_prefix_cons.mpr ⟨rfl, inside⟩⟩

/-- If something can be read inside `whole`, the text is cut before `whole` is over. -/
theorem splitFirst_early (some_before : first ≠ []) (some_after : second ≠ [])
    (reads : (read (second ++ after)).isSome = true) :
    ∃ before found, splitFirst read (first ++ second ++ after) = some (before, found) ∧
      before <+: first ++ second ∧ before.length < (first ++ second).length := by
  induction first with
  | nil => exact absurd rfl some_before
  | cons c rest ih =>
    rw [List.cons_append, List.cons_append, splitFirst]
    cases here : read (rest ++ second ++ after) with
    | some found =>
      refine ⟨[c], found, rfl, ⟨rest ++ second, rfl⟩, ?_⟩
      have longer := List.length_pos_iff.mpr some_after
      simp only [List.length_cons, List.length_append, List.length_nil]
      omega
    | none =>
      cases rest with
      | nil =>
        rw [List.nil_append] at here
        rw [here] at reads
        cases reads
      | cons next others =>
        obtain ⟨before, found, split, inside, shorter⟩ := ih (by simp)
        rw [split]
        refine ⟨c :: before, found, rfl, List.cons_prefix_cons.mpr ⟨rfl, inside⟩, ?_⟩
        simpa using shorter

private theorem splitFirst_none (silent : ∀ first second, text = first ++ second → first ≠ [] →
    read second = none) : splitFirst read text = none := by
  cases split : splitFirst read text with
  | none => rfl
  | some cut =>
    obtain ⟨before, found⟩ := cut
    obtain ⟨after, parts, nonempty, reads⟩ := splitFirst_sound split
    rw [silent before after parts nonempty] at reads
    cases reads

theorem splitFirst_eq_none_iff : splitFirst read text = none ↔
    ∀ first second, text = first ++ second → first ≠ [] → read second = none := by
  refine ⟨?_, splitFirst_none⟩
  rintro unsplit first second rfl some_first
  cases here : read second with
  | none => rfl
  | some found =>
    have reads : (read second).isSome = true := by rw [here]; rfl
    obtain ⟨_, _, split, _⟩ := splitFirst_prefix some_first reads
    rw [unsplit] at split
    cases split

/-- Nothing can be read earlier than where a text is cut. -/
theorem splitFirst_quiet (split : splitFirst read (before ++ after) = some (before, found)) :
    ∀ first second, before = first ++ second → first ≠ [] → second ≠ [] →
      read (second ++ after) = none := by
  rintro first second rfl some_first some_second
  cases here : read (second ++ after) with
  | none => rfl
  | some value =>
    have reads : (read (second ++ after)).isSome = true := by rw [here]; rfl
    obtain ⟨front, _, earlier, inside⟩ := splitFirst_prefix some_first reads
    rw [← List.append_assoc, split] at earlier
    cases earlier
    have shorter := inside.length_le
    have longer := List.length_pos_iff.mpr some_second
    rw [List.length_append] at shorter
    omega

/-- An end in which nothing can be read is carried along. -/
theorem splitFirst_append {more : β → β}
    (carried : ∀ text, read (text ++ tail) = (read text).map more)
    (silent : ∀ first second, tail = first ++ second → first ≠ [] → read second = none)
    (text : List Char) :
    splitFirst read (text ++ tail) =
      (splitFirst read text).map fun (before, found) => (before, more found) := by
  induction text with
  | nil => exact splitFirst_none silent
  | cons c rest ih =>
    rw [List.cons_append, splitFirst, splitFirst, carried rest, ih]
    cases read rest with
    | some found => rfl
    | none => cases splitFirst read rest <;> rfl

end DevlogGraph.Pattern
