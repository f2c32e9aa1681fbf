import DevlogGraph.Text.Span

/-! Tables of spans and shifts as sets and maps of code points. That a map has reached its end
after one step is checked run against run, not point by point. -/
namespace DevlogGraph.Text

theorem mem_of_inSpans {spans : List (Nat × Nat)} (found : inSpans spans point = true) :
    ∃ span ∈ spans, span.1 ≤ point ∧ point ≤ span.2 := by
  induction spans with
  | nil => cases found
  | cons span rest ih =>
    obtain ⟨first, last⟩ := span
    unfold inSpans at found
    split at found
    · cases found
    · rename_i reached
      rcases Bool.or_eq_true_iff.mp found with here | later
      · exact ⟨(first, last), by simp, Nat.le_of_not_lt reached, by simpa using here⟩
      · obtain ⟨span, member, bounds⟩ := ih later
        exact ⟨span, List.mem_cons_of_mem _ member, bounds⟩

/-- No span of the one table meets a span of the other. -/
def apart (spans others : List (Nat × Nat)) : Bool :=
  spans.all fun span => others.all fun other => Nat.blt span.2 other.1 || Nat.blt other.2 span.1

theorem inSpans_of_apart {spans others : List (Nat × Nat)} (separate : apart spans others = true)
    (found : inSpans spans point = true) : inSpans others point = false := by
  rw [Bool.eq_false_iff]
  intro shared
  obtain ⟨span, member, low, high⟩ := mem_of_inSpans found
  obtain ⟨other, present, above, below⟩ := mem_of_inSpans shared
  have checked := List.all_eq_true.mp (List.all_eq_true.mp separate span member) other present
  simp only [Bool.or_eq_true, Nat.blt_eq] at checked
  omega

/-- Where a run takes a point. -/
def Shift.moved (run : Shift) (point : Nat) : Nat := (point + run.distance).toNat

theorem shifted_of_uncovered {runs : List Shift}
    (uncovered : ∀ run ∈ runs, run.covers point = false) : shifted runs point = point := by
  induction runs with
  | nil => rfl
  | cons run rest ih =>
    unfold shifted
    rw [uncovered run (by simp)]
    split
    · rfl
    · simpa using ih fun other member => uncovered other (by simp [member])

theorem shifted_cases (runs : List Shift) (point : Nat) :
    shifted runs point = point ∨
      ∃ run ∈ runs, run.covers point = true ∧ shifted runs point = run.moved point := by
  induction runs with
  | nil => exact .inl rfl
  | cons run rest ih =>
    unfold shifted
    split
    · exact .inl rfl
    · split
      · rename_i covered
        exact .inr ⟨run, by simp, covered, rfl⟩
      · rcases ih with same | ⟨other, member, covered, moved⟩
        · exact .inl same
        · exact .inr ⟨other, by simp [member], covered, moved⟩

theorem toNat_ofNat (valid : point.isValidChar) : (Char.ofNat point).toNat = point := by
  rw [Char.ofNat, dif_pos valid]
  rfl

namespace Shift

/-- No point of the one run is taken to a point of the other: what it reaches lies apart from the
other run, or falls between its points. -/
def clears (run other : Shift) : Bool :=
  let low := run.moved run.first
  let high := run.moved run.last
  decide (0 ≤ run.first + run.distance) &&
    (Nat.blt high other.first || Nat.blt other.last low ||
      ((Nat.beq run.stride other.stride || Nat.beq run.first run.last) &&
        Nat.ble other.first low && !Nat.beq ((low - other.first) % other.stride) 0))

theorem covers_iff (run : Shift) (point : Nat) : run.covers point = true ↔
    run.first ≤ point ∧ point ≤ run.last ∧ (point - run.first) % run.stride = 0 := by
  simp [covers, and_assoc]

theorem uncovered_of_clears {run other : Shift} (clear : run.clears other = true)
    (covered : run.covers point = true) : other.covers (run.moved point) = false := by
  rw [Bool.eq_false_iff]
  intro hit
  obtain ⟨low, high, place⟩ := (covers_iff run point).mp covered
  obtain ⟨above, below, residue⟩ := (covers_iff other _).mp hit
  simp only [clears, moved, Bool.and_eq_true, Bool.or_eq_true, decide_eq_true_eq, Nat.blt_eq,
    Nat.beq_eq, Nat.ble_eq, Bool.not_eq_true'] at clear above below residue
  obtain ⟨positive, (apart | apart) | ⟨⟨stride, reached⟩, between⟩⟩ := clear
  · omega
  · omega
  · have offset : (point + run.distance).toNat - other.first =
        ((run.first + run.distance).toNat - other.first) + (point - run.first) := by omega
    have multiple : (point - run.first) % other.stride = 0 := by
      rcases stride with same | single
      · rw [← same]
        exact place
      · rw [show point - run.first = 0 by omega, Nat.zero_mod]
    rw [offset, Nat.add_mod, multiple, Nat.add_zero, Nat.mod_mod] at residue
    rw [residue] at between
    cases between

end Shift

/-- The points of a span, as a run that leads nowhere. -/
def spanShift (span : Nat × Nat) : Shift := ⟨span.1, span.2, 1, 0⟩

theorem spanShift_covers (span : Nat × Nat) (point : Nat) :
    (spanShift span).covers point = true ↔ span.1 ≤ point ∧ point ≤ span.2 := by
  simp [Shift.covers_iff, spanShift, Nat.mod_one]

/-- Points of a span that lies apart from every run are not shifted. -/
theorem shifted_of_span {runs : List Shift} {span : Nat × Nat}
    (clear : ∀ run ∈ runs, (spanShift span).clears run = true)
    (bounds : span.1 ≤ point ∧ point ≤ span.2) : shifted runs point = point := by
  apply shifted_of_uncovered
  intro run present
  have kept := Shift.uncovered_of_clears (clear run present) ((spanShift_covers span point).mpr bounds)
  simpa [Shift.moved, spanShift] using kept

/-- Every point of the run is one of the other run, which moves it as far. -/
def Shift.within (run other : Shift) : Bool :=
  Nat.ble other.first run.first && Nat.ble run.last other.last &&
    Nat.beq run.stride other.stride && Nat.beq ((run.first - other.first) % other.stride) 0 &&
    decide (run.distance = other.distance)

private theorem Shift.covers_of_within {run other : Shift} (inside : run.within other = true)
    (covered : run.covers point = true) :
    other.covers point = true ∧ other.moved point = run.moved point := by
  obtain ⟨low, high, place⟩ := (covers_iff run point).mp covered
  simp only [within, Bool.and_eq_true, decide_eq_true_eq, Nat.ble_eq, Nat.beq_eq] at inside
  obtain ⟨⟨⟨⟨starts, ends⟩, stride⟩, residue⟩, distance⟩ := inside
  have offset : point - other.first = (run.first - other.first) + (point - run.first) := by omega
  rw [stride] at place
  refine ⟨(covers_iff other point).mpr ⟨by omega, by omega, ?_⟩, by rw [moved, moved, distance]⟩
  rw [offset, Nat.add_mod, residue, place]
  rfl

/-- Each run ends before the next one starts. -/
def ascending : List Shift → Bool
  | [] => true
  | run :: rest => Nat.ble run.first run.last &&
      (rest.head?.all fun next => Nat.blt run.last next.first) && ascending rest

private theorem last_lt_of_ascending {runs : List Shift} (sorted : ascending (run :: runs) = true) :
    ∀ later ∈ runs, run.last < later.first := by
  induction runs generalizing run with
  | nil => simp
  | cons next rest ih =>
    simp only [ascending, Bool.and_eq_true, Nat.ble_eq, List.head?_cons, Option.all_some,
      Nat.blt_eq] at sorted
    obtain ⟨⟨_, here⟩, ordered, there⟩ := sorted
    intro later member
    rcases List.mem_cons.mp member with rfl | beyond
    · exact here
    · have next_sorted : ascending (next :: rest) = true := by
        simp only [ascending, Bool.and_eq_true, Nat.ble_eq]
        exact ⟨ordered, there⟩
      have bound := ih next_sorted later beyond
      omega

/-- Of ascending runs the one that covers a point is the one that moves it. -/
private theorem shifted_of_covered {runs : List Shift} (sorted : ascending runs = true)
    (member : run ∈ runs) (covered : run.covers point = true) : shifted runs point = run.moved point := by
  induction runs with
  | nil => cases member
  | cons first rest ih =>
    have later := last_lt_of_ascending sorted
    obtain ⟨low, _, _⟩ := (Shift.covers_iff run point).mp covered
    simp only [ascending, Bool.and_eq_true, Nat.ble_eq] at sorted
    rcases List.mem_cons.mp member with rfl | beyond
    · rw [shifted, if_neg (Nat.not_lt.mpr low), if_pos covered]
      rfl
    · have past := later run beyond
      have uncovered : ¬ first.covers point = true := by
        rw [Shift.covers_iff]
        omega
      have reached : ¬ point < first.first := by
        have ordered := sorted.1.1
        omega
      rw [shifted, if_neg reached, if_neg uncovered, ih sorted.2 beyond]

/-- The runs move the points of this run as it does, and its images no further. -/
def settles (runs : List Shift) (run : Shift) : Bool :=
  runs.any run.within && runs.all run.clears

private theorem shifted_of_settles {runs : List Shift} (sorted : ascending runs = true)
    (settled : settles runs run = true) (covered : run.covers point = true) :
    shifted runs point = run.moved point ∧ shifted runs (run.moved point) = run.moved point := by
  rw [settles, Bool.and_eq_true, List.any_eq_true, List.all_eq_true] at settled
  obtain ⟨⟨other, member, inside⟩, clear⟩ := settled
  obtain ⟨other_covers, same⟩ := Shift.covers_of_within inside covered
  refine ⟨(shifted_of_covered sorted member other_covers).trans same, ?_⟩
  exact shifted_of_uncovered fun later present =>
    Shift.uncovered_of_clears (clear later present) covered

/-- The run that takes every image back to its point. -/
def Shift.back (run : Shift) : Shift where
  first := run.moved run.first
  last := run.moved run.last
  stride := run.stride
  distance := -run.distance

private theorem Shift.back_covers {run : Shift} (natural : 0 ≤ run.first + run.distance)
    (covered : run.covers point = true) :
    run.back.covers (run.moved point) = true ∧ run.back.moved (run.moved point) = point := by
  obtain ⟨low, high, place⟩ := (covers_iff run point).mp covered
  have offset : run.moved point - run.moved run.first = point - run.first := by
    simp only [moved]
    omega
  constructor
  · refine (covers_iff run.back _).mpr ⟨?_, ?_, ?_⟩
    · simp only [back, moved]
      omega
    · simp only [back, moved]
      omega
    · simp only [back, offset, place]
  · simp only [back, moved]
    omega

/-- A point and its image are taken to the same point, whichever of the two the runs move. -/
theorem shifted_moved {runs : List Shift} (sorted : ascending runs = true)
    (settled : (settles runs run || (decide (0 ≤ run.first + run.distance) &&
      settles runs run.back)) = true)
    (covered : run.covers point = true) :
    shifted runs (run.moved point) = shifted runs point := by
  rcases Bool.or_eq_true_iff.mp settled with onward | reverse
  · obtain ⟨here, there⟩ := shifted_of_settles sorted onward covered
    rw [here, there]
  · rw [Bool.and_eq_true, decide_eq_true_eq] at reverse
    obtain ⟨image_covered, back⟩ := Shift.back_covers reverse.1 covered
    obtain ⟨here, there⟩ := shifted_of_settles sorted reverse.2 image_covered
    rw [back] at here there
    rw [here, there]

end DevlogGraph.Text
