import DevlogGraph.Model.Prompt

/-! The prompt as a template in which the devlog takes the place of the first placeholder. What looks
like a placeholder inside the devlog is left alone, and no two devlogs give one prompt. -/
namespace DevlogGraph.Model

/-- The text with another text in the place of the first occurrence of a part. -/
def replaceFirst (part replacement : List Char) : List Char → List Char
  | [] => if part = [] then replacement else []
  | c :: rest =>
      if part.isPrefixOf (c :: rest) then replacement ++ (c :: rest).drop part.length
      else c :: replaceFirst part replacement rest

/-- The mark of the place where the devlog goes. -/
def placeholder : List Char := ['\x7b', 'd', 'e', 'v', 'l', 'o', 'g', '\x7d']

def template : List Char := promptStart.toList ++ (placeholder ++ promptEnd.toList)

/-- A part is not found among characters that do not hold its first one. -/
private theorem replaceFirst_append {before : List Char} (absent : first ∉ before)
    (later replacement text : List Char) :
    replaceFirst (first :: later) replacement (before ++ text) =
      before ++ replaceFirst (first :: later) replacement text := by
  induction before with
  | nil => rfl
  | cons c rest ih =>
    rw [List.mem_cons, not_or] at absent
    have apart : (first :: later).isPrefixOf (c :: (rest ++ text)) = false := by
      simp [List.isPrefixOf, absent.1]
    rw [List.cons_append, replaceFirst, apart, if_neg Bool.false_ne_true, ih absent.2,
      List.cons_append]

private theorem replaceFirst_here (first : Char) (later replacement after : List Char) :
    replaceFirst (first :: later) replacement (first :: later ++ after) = replacement ++ after := by
  have here : (first :: later).isPrefixOf (first :: later ++ after) = true :=
    List.isPrefixOf_iff_prefix.mpr (List.prefix_append _ _)
  rw [List.cons_append] at here ⊢
  rw [replaceFirst, if_pos here, ← List.cons_append, List.drop_left]

/-- A literal is compared as the list it is made of, which is cheaper than reading it again. -/
private theorem absent_of_ofList {characters : List Char} (absent : c ∉ characters) :
    c ∉ (String.ofList characters).toList := by
  rwa [String.toList_ofList]

private theorem promptStart_plain : '\x7b' ∉ promptStart.toList := by
  unfold promptStart
  apply absent_of_ofList
  decide +kernel

theorem prompt_fills_template (devlog : String) :
    (prompt devlog).toList = replaceFirst placeholder devlog.toList template := by
  rw [template, placeholder, replaceFirst_append promptStart_plain, replaceFirst_here]
  simp [prompt]

theorem prompt_inj : prompt devlog = prompt other ↔ devlog = other := by
  constructor
  · intro same
    have texts := congrArg String.toList same
    simp only [prompt, String.toList_append, List.append_assoc, List.append_cancel_left_eq,
      List.append_cancel_right_eq] at texts
    exact String.toList_injective texts
  · exact congrArg prompt

end DevlogGraph.Model
