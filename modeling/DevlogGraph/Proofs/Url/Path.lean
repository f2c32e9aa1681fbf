import DevlogGraph.Proofs.Text.Lines
import DevlogGraph.Url.Path

/-! Paths of addresses that were read: they have a segment, and no segment holds a slash. So the text
of a path tells where its last segment begins, and a path that is written with a slash at its end has
an empty one there. -/
namespace DevlogGraph.Url

open Text

private theorem slash_not_mem_escapedByte (byte : UInt8) : '/' ∉ escapedByte byte := by
  have digits : ∀ value < 16, hexDigit value ≠ '/' := by decide
  have bound : byte.toNat < 256 := byte.toNat_lt
  have high := digits (byte.toNat / 16) (by omega)
  have low := digits (byte.toNat % 16) (by omega)
  simp [escapedByte, high.symm, low.symm]

private theorem slash_not_mem_escaped {text : List Char} (absent : '/' ∉ text)
    (hidden : Char → Bool) :
    '/' ∉ escaped hidden text := by
  intro member
  obtain ⟨c, present, inside⟩ := List.mem_flatMap.mp member
  unfold escapedChar at inside
  split at inside
  · obtain ⟨byte, _, found⟩ := List.mem_flatMap.mp inside
    exact slash_not_mem_escapedByte byte found
  · exact absent (List.mem_singleton.mp inside ▸ present)

namespace Path

/-- No segment holds a slash. -/
def Clear (segments : List (List Char)) : Prop := ∀ segment ∈ segments, '/' ∉ segment

/-- The segment leads to no other level. -/
def plain (segment : List Char) : Bool := !isDotPair segment && !isDot segment

private theorem upper_sublist (segments : List (List Char)) :
    (upper segments).Sublist segments := by
  unfold upper
  split
  · exact List.Sublist.refl segments
  · exact List.dropLast_sublist segments

private theorem follow_cons (level : List (List Char)) (segment : List Char)
    {later : List (List Char)} (more : later ≠ []) : follow level (segment :: later) =
      if isDotPair segment then follow (upper level) later
      else if isDot segment then follow level later
      else follow (level ++ [segment]) later := by
  cases later with
  | nil => exact absurd rfl more
  | cons next others => rfl

/-- Segments lead to a level of segments that were there, and to the last of them or an empty one. -/
private theorem follow_shape (level : List (List Char)) {segments : List (List Char)}
    (some_segment : segments ≠ []) : ∃ base last, follow level segments = base ++ [last] ∧
      (∀ name ∈ base, name ∈ level ∨ name ∈ segments) ∧
      (last = [] ∨ segments.getLast? = some last) := by
  induction segments generalizing level with
  | nil => exact absurd rfl some_segment
  | cons segment later ih =>
    have above (name : List Char) (member : name ∈ upper level) : name ∈ level :=
      (upper_sublist level).subset member
    cases later with
    | nil =>
      unfold follow
      split
      · exact ⟨upper level, [], rfl, fun name member => .inl (above name member), .inl rfl⟩
      · split
        · exact ⟨level, [], rfl, fun _ member => .inl member, .inl rfl⟩
        · exact ⟨level, segment, rfl, fun _ member => .inl member, .inr rfl⟩
    | cons next others =>
      have onward (reached : List (List Char))
          (kept : ∀ name ∈ reached, name ∈ level ∨ name ∈ segment :: next :: others) :
          ∃ base last, follow reached (next :: others) = base ++ [last] ∧
            (∀ name ∈ base, name ∈ level ∨ name ∈ segment :: next :: others) ∧
            (last = [] ∨ (segment :: next :: others).getLast? = some last) := by
        obtain ⟨base, last, led, inside, ends⟩ := ih reached (List.cons_ne_nil next others)
        refine ⟨base, last, led, fun name member => ?_, by rwa [List.getLast?_cons_cons]⟩
        rcases inside name member with before | behind
        · exact kept name before
        · exact .inr (List.mem_cons_of_mem segment behind)
      rw [follow_cons level segment (List.cons_ne_nil next others)]
      split
      · exact onward _ fun name member => .inl (above name member)
      · split
        · exact onward _ fun _ member => .inl member
        · refine onward _ fun name member => ?_
          rcases List.mem_append.mp member with before | here
          · exact .inl before
          · exact .inr (List.mem_singleton.mp here ▸ List.mem_cons_self)

private theorem follow_ne_nil (level : List (List Char)) {segments : List (List Char)}
    (some_segment : segments ≠ []) : follow level segments ≠ [] := by
  obtain ⟨base, last, led, _⟩ := follow_shape level some_segment
  rw [led]
  exact List.concat_ne_nil last base

theorem Clear.follow (clear : Clear level) (segments_clear : Clear segments)
    (some_segment : segments ≠ []) : Clear (Path.follow level segments) := by
  obtain ⟨base, last, led, inside, ends⟩ := follow_shape level some_segment
  intro segment member
  rw [led, List.mem_append, List.mem_singleton] at member
  rcases member with before | rfl
  · exact (inside segment before).elim (clear segment) (segments_clear segment)
  · rcases ends with rfl | final
    · exact List.not_mem_nil
    · exact segments_clear segment (List.mem_of_getLast? final)

/-- An empty segment at the end stays there. -/
private theorem getLast_follow_empty (level segments : List (List Char)) :
    (follow level (segments ++ [[]])).getLast? = some [] := by
  obtain ⟨base, last, led, _, ends⟩ :=
    follow_shape level (List.append_ne_nil_of_right_ne_nil segments (List.cons_ne_nil [] []))
  have empty : last = [] := by
    rcases ends with empty | final
    · exact empty
    · rw [List.getLast?_concat] at final
      exact (Option.some.inj final).symm
  rw [led, empty, List.getLast?_concat]

/-- Plain segments are put behind the level. -/
theorem follow_plain (level : List (List Char)) {segments : List (List Char)}
    (all_plain : ∀ segment ∈ segments, plain segment = true) :
    follow level segments = level ++ segments := by
  induction segments generalizing level with
  | nil => rw [follow, List.append_nil]
  | cons segment later ih =>
    obtain ⟨here, later_plain⟩ := List.forall_mem_cons.mp all_plain
    simp only [plain, Bool.and_eq_true, Bool.not_eq_true'] at here
    cases later with
    | nil => rw [follow, here.1, here.2]; rfl
    | cons next others =>
      rw [follow_cons level segment (List.cons_ne_nil next others), here.1, here.2]
      exact (ih (level ++ [segment]) later_plain).trans (List.append_assoc level [segment] _)

/-- Nothing stands behind the last slash, or nothing is written at all. -/
def EndsOpen (written : List Char) : Prop :=
  written = [] ∨ written.getLast? = some '/' ∨ written.getLast? = some '\\'

private theorem escaped_pieces_ne_nil (written : List Char) :
    (pieces '/' written).map (escaped hiddenInPath) ≠ [] := by
  rw [ne_eq, List.map_eq_nil_iff]
  exact pieces_ne_nil '/' written

theorem read_ne_nil (written : List Char) : read written ≠ [] :=
  follow_ne_nil [] (escaped_pieces_ne_nil _)

theorem clear_read (written : List Char) : Clear (read written) := by
  have nothing : Clear [] := fun _ member => absurd member List.not_mem_nil
  refine nothing.follow ?_ (escaped_pieces_ne_nil _)
  intro segment member
  obtain ⟨piece, split, rfl⟩ := List.mem_map.mp member
  exact slash_not_mem_escaped (mark_not_mem_pieces split) hiddenInPath

private theorem getLast_follow_pieces (front : List Char) :
    (follow [] ((pieces '/' (front ++ ['/'])).map (escaped hiddenInPath))).getLast? = some [] := by
  have split : pieces '/' (front ++ ['/']) = pieces '/' front ++ [[]] :=
    pieces_append_mark '/' front []
  rw [split, List.map_append]
  exact getLast_follow_empty _ _

theorem getLast_read (ends : EndsOpen written) : (read written).getLast? = some [] := by
  have slashed (front : List Char) (whole : (written.map fun c => if c = '\\' then '/' else c) =
      front ++ ['/']) : (read written).getLast? = some [] := by
    unfold read
    simp only [whole]
    split
    · -- the slash at the start may be the one at the end
      rename_i rest starts
      cases front with
      | nil =>
        obtain rfl := (List.cons.inj starts).2
        rfl
      | cons c others =>
        obtain rfl := (List.cons.inj starts).2
        exact getLast_follow_pieces others
    · exact getLast_follow_pieces front
  rcases ends with rfl | slash | backslash
  · rfl
  · obtain ⟨front, rfl⟩ := List.getLast?_eq_some_iff.mp slash
    exact slashed _ List.map_append
  · obtain ⟨front, rfl⟩ := List.getLast?_eq_some_iff.mp backslash
    exact slashed _ List.map_append

theorem text_append (first second : List (List Char)) :
    text (first ++ second) = text first ++ text second :=
  List.flatMap_append

theorem text_concat (parents : List (List Char)) (last : List Char) :
    text (parents ++ [last]) = text parents ++ '/' :: last := by
  rw [text_append]
  simp [text]

/-- The text ends in a slash if the last segment is empty, and only then. -/
theorem text_ends_iff (absent : '/' ∉ last) :
    (text (parents ++ [last])).getLast? = some '/' ↔ last = [] := by
  rw [text_concat, List.getLast?_append]
  cases ended : last.getLast? with
  | none =>
    rw [List.getLast?_eq_none_iff.mp ended]
    simp
  | some c =>
    have present := List.mem_of_getLast? ended
    have nonempty : last ≠ [] := List.ne_nil_of_mem present
    have other : c ≠ '/' := fun same => absent (same ▸ present)
    simp [List.getLast?_cons, ended, nonempty, other]

end Path

end DevlogGraph.Url
