import DevlogGraph.Text.Excerpt

/-! Excerpts, in characters and in bytes: however wide its characters are, a text is cut in front of
the first one that is left out. -/
namespace DevlogGraph.Text

/-- The beginning that is kept of a text: all of it, or as many characters as the limit allows and
three dots. -/
inductive Excerpt (limit : Nat) (text : String) : String → Prop where
  | whole (short : text.length ≤ limit) : Excerpt limit text text
  | cut (kept dropped : String) (parts : text = kept ++ dropped) (more : dropped ≠ "")
      (size : kept.length = limit) : Excerpt limit text (kept ++ "...")

theorem excerpt_cases (limit : Nat) (text : String) : Excerpt limit text (excerpt limit text) := by
  unfold excerpt
  dsimp only
  rw [String.length_toList]
  split
  · rename_i short
    exact .whole short
  · rename_i long
    have size : (text.toList.take limit).length = limit :=
      List.length_take_of_le (Nat.le_of_lt (String.length_toList ▸ Nat.lt_of_not_le long))
    refine .cut (String.ofList (text.toList.take limit)) (String.ofList (text.toList.drop limit)) ?_ ?_ ?_
    · rw [← String.ofList_append, List.take_append_drop, String.ofList_toList]
    · intro all
      have none_left := congrArg String.toList all
      rw [String.toList_ofList, String.toList_empty, List.drop_eq_nil_iff, String.length_toList]
        at none_left
      exact long none_left
    · rw [← String.length_toList, String.toList_ofList, size]

/-- The byte at which the character of this number starts, if there are as many. -/
def byteStart? : Nat → List Char → Option Nat
  | _, [] => none
  | 0, _ :: _ => some 0
  | number + 1, c :: rest => (byteStart? number rest).map (c.utf8Size + ·)

private theorem byteStart_of_short {text : List Char} (short : text.length ≤ number) :
    byteStart? number text = none := by
  induction text generalizing number with
  | nil => rw [byteStart?]
  | cons c rest ih =>
    cases number with
    | zero => cases short
    | succ number => rw [byteStart?, ih (Nat.le_of_succ_le_succ short), Option.map_none]

private theorem byteStart_append (kept : List Char) (more : dropped ≠ []) :
    byteStart? kept.length (kept ++ dropped) = some (String.ofList kept).utf8ByteSize := by
  induction kept with
  | nil =>
    cases dropped with
    | nil => exact absurd rfl more
    | cons c rest => rfl
  | cons c rest ih =>
    rw [List.cons_append, List.length_cons, byteStart?, ih, Option.map_some,
      String.ofList_cons, String.utf8ByteSize_append, String.utf8ByteSize_singleton]

/-- An excerpt as it is cut out of the bytes of the text. -/
structure Cuts (limit : Nat) (text short : String) : Prop where
  kept : Excerpt limit text short
  whole : byteStart? limit text.toList = none → short = text
  /-- A character starts at the byte where the text is cut. -/
  boundary : ∀ offset, byteStart? limit text.toList = some offset →
    (⟨offset⟩ : String.Pos.Raw).IsValid text ∧
      short.toByteArray = text.toByteArray.extract 0 offset ++ "...".toByteArray

theorem Excerpt.cuts (kept : Excerpt limit text short) : Cuts limit text short := by
  refine ⟨kept, ?_, ?_⟩
  · intro few
    cases kept with
    | whole _ => rfl
    | cut kept dropped parts more size =>
      have long := byteStart_append kept.toList (mt String.toList_eq_nil_iff.mp more)
      rw [← String.toList_append, ← parts, String.length_toList, size, few] at long
      cases long
  · intro offset found
    cases kept with
    | whole few =>
      rw [byteStart_of_short (String.length_toList ▸ few)] at found
      cases found
    | cut kept dropped parts more size =>
      have start := byteStart_append kept.toList (mt String.toList_eq_nil_iff.mp more)
      rw [← String.toList_append, ← parts, String.length_toList, size, found,
        String.ofList_toList, Option.some.injEq] at start
      subst start parts
      refine ⟨String.Pos.Raw.isValid_iff_exists_append.mpr ⟨kept, dropped, rfl, rfl⟩, ?_⟩
      rw [String.toByteArray_append, String.toByteArray_append]
      congr 1
      exact (ByteArray.extract_append_eq_left rfl).symm

theorem excerpt_cuts (limit : Nat) (text : String) : Cuts limit text (excerpt limit text) :=
  (excerpt_cases limit text).cuts

end DevlogGraph.Text
