/-! Characters grouped by code point: classes as ascending spans, maps as runs of points that all
move by one distance. -/
namespace DevlogGraph.Text

/-- Membership in ascending, disjoint spans of code points; both ends belong to a span. -/
def inSpans : List (Nat × Nat) → Nat → Bool
  | [], _ => false
  | (first, last) :: rest, point =>
      if point < first then false else decide (point ≤ last) || inSpans rest point

/-- Every `stride`-th point from `first` to `last` moves by `distance`. -/
structure Shift where
  first : Nat
  last : Nat
  stride : Nat
  distance : Int

def Shift.covers (run : Shift) (point : Nat) : Bool :=
  decide (run.first ≤ point) && decide (point ≤ run.last) &&
    (point - run.first) % run.stride == 0

/-- Apply the run that covers the point; runs are ascending, so the search stops at the first
later one. -/
def shifted : List Shift → Nat → Nat
  | [], point => point
  | run :: rest, point =>
      if point < run.first then point
      else if run.covers point then (point + run.distance).toNat
      else shifted rest point

end DevlogGraph.Text
