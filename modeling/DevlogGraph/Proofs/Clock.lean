import DevlogGraph.Clock

/-! Runs on the virtual clock, with and without a cancellation. A timely run is the same up to the
instant of its cancellation, and it ends there. -/
namespace DevlogGraph

namespace Clock

/-- No cancellation will come. -/
def calm (now : Nat) : Clock := { now := now }

/-- A cancellation is due at the instant. -/
def due (now instant : Nat) : Clock := { now := now, cancelAt := some instant }

/-- The cancellation has come. -/
def stopped (instant : Nat) : Clock :=
  { now := instant, cancelAt := some instant, cancelled := true }

private theorem wait_due_of_le (enough : start + length ≤ instant) :
    (due start instant).wait length = due (start + length) instant :=
  if_neg (Nat.not_lt_of_le enough)

private theorem wait_due_of_lt (started : start ≤ instant) (short : instant < start + length) :
    (due start instant).wait length = stopped instant := by
  have reached : (due start instant).wait length =
      { now := max start instant, cancelAt := some instant, cancelled := true } :=
    if_pos short
  rw [reached, Nat.max_eq_right started]
  rfl

end Clock

/-- The same piece of a run, with a cancellation that is still to come. -/
def Trace.due (trace : Trace α) (instant : Nat) : Trace α :=
  { trace with clock := { trace.clock with cancelAt := some instant } }

/-- A cancellation that comes later changes nothing; one that comes within the run ends it at that
instant, after the calls that were made by then. -/
structure Timely (run : Clock → Trace (Except Failure α)) : Prop where
  calm : ∀ start, ∃ finish, (run (.calm start)).clock = .calm finish ∧ start ≤ finish ∧
    ∀ made ∈ (run (.calm start)).made, start ≤ made.instant ∧ made.instant ≤ finish
  early : ∀ start instant, (run (.calm start)).clock.now ≤ instant →
    run (.due start instant) = (run (.calm start)).due instant
  cut : ∀ start instant, start ≤ instant → instant < (run (.calm start)).clock.now →
    (run (.due start instant)).outcome = .error .cancelled ∧
      (run (.due start instant)).clock = .stopped instant ∧
      (run (.due start instant)).made =
        (run (.calm start)).made.filter (·.instant ≤ instant)

/-- What takes no time cannot be cancelled. -/
theorem timely_of_still (answer : Except Failure α) (events : List Event)
    {run : Clock → Trace (Except Failure α)}
    (still : ∀ clock, run clock = { outcome := answer, events := events, clock := clock }) :
    Timely run := by
  constructor
  · intro start
    exact ⟨start, by rw [still], Nat.le_refl _, by simp [still]⟩
  · intro start instant _
    rw [still, still]
    rfl
  · intro start instant started short
    rw [still] at short
    exact absurd short (Nat.not_lt_of_le started)

/-- One call, and a wait for its answer. -/
theorem timely_of_wait (call : Call) (length : Nat) (answer : Except Failure α)
    (events : List Event) {run : Clock → Trace (Except Failure α)}
    (waits : ∀ clock, clock.cancelled = false → run clock =
      if (clock.wait length).cancelled then {
        outcome := .error .cancelled
        made := [⟨clock.now, call⟩]
        clock := clock.wait length }
      else {
        outcome := answer
        made := [⟨clock.now, call⟩]
        events := events
        clock := clock.wait length }) :
    Timely run := by
  have calm (start : Nat) : run (.calm start) = {
      outcome := answer
      made := [⟨start, call⟩]
      events := events
      clock := .calm (start + length) } :=
    waits (.calm start) rfl
  constructor
  · intro start
    rw [calm]
    exact ⟨start + length, rfl, Nat.le_add_right _ _, by simp⟩
  · intro start instant enough
    rw [calm] at enough ⊢
    rw [waits _ rfl, Clock.wait_due_of_le enough]
    rfl
  · intro start instant started short
    rw [calm] at short ⊢
    rw [waits _ rfl, Clock.wait_due_of_lt started short]
    refine ⟨rfl, rfl, ?_⟩
    simp [Clock.due, started, Clock.stopped]

theorem Trace.due_clock {trace : Trace α} (ended : trace.clock = .calm finish) (instant : Nat) :
    (trace.due instant).clock = .due finish instant := by
  rw [Trace.due, ended]
  rfl

theorem made_until {calls : List Made} (bounded : ∀ made ∈ calls, made.instant ≤ finish)
    (passed : finish ≤ instant) : calls.filter (·.instant ≤ instant) = calls := by
  rw [List.filter_eq_self]
  intro made member
  exact decide_eq_true (Nat.le_trans (bounded made member) passed)

theorem made_after {calls : List Made} (bounded : ∀ made ∈ calls, start ≤ made.instant)
    (short : instant < start) : calls.filter (·.instant ≤ instant) = [] := by
  rw [List.filter_eq_nil_iff]
  intro made member
  have later := bounded made member
  simp only [decide_eq_true_eq]
  omega

variable {run : Clock → Trace (Except Failure α)}
  {next : Except Failure α → Clock → Trace (Except Failure β)}

theorem Timely.due_of_ended (timely : Timely run) (ended : (run (.calm start)).clock = .calm finish)
    (passed : finish ≤ instant) : run (.due start instant) = (run (.calm start)).due instant :=
  timely.early start instant (by rw [ended]; exact passed)

/-- A failure ends the sequence where it stands. -/
def Stops (next : Except Failure α → Clock → Trace (Except Failure β)) : Prop :=
  ∀ failure clock, next (.error failure) clock = { outcome := .error failure, clock := clock }

/-- What comes after a timely run moves the clock on and makes its calls from then on. -/
theorem Stops.calm (stops : Stops next) (later : ∀ value, Timely (next (.ok value)))
    (outcome : Except Failure α) (start : Nat) :
    ∃ finish, (next outcome (.calm start)).clock = .calm finish ∧ start ≤ finish ∧
      ∀ made ∈ (next outcome (.calm start)).made, start ≤ made.instant ∧ made.instant ≤ finish := by
  cases outcome with
  | error failure =>
    rw [stops]
    exact ⟨start, rfl, Nat.le_refl _, by simp⟩
  | ok value => exact (later value).calm start

theorem Stops.early (stops : Stops next) (later : ∀ value, Timely (next (.ok value)))
    (outcome : Except Failure α) (enough : (next outcome (.calm start)).clock.now ≤ instant) :
    next outcome (.due start instant) = (next outcome (.calm start)).due instant := by
  cases outcome with
  | error failure =>
    rw [stops, stops]
    rfl
  | ok value => exact (later value).early start instant enough

/-- Timely runs one after another, up to the first failure. -/
theorem Timely.andThen (first : Timely run) (stops : Stops next)
    (later : ∀ value, Timely (next (.ok value))) :
    Timely fun clock => (run clock).andThen next := by
  constructor
  · intro start
    obtain ⟨middle, ended, forward, bounds⟩ := first.calm start
    obtain ⟨finish, stood, onward, later_bounds⟩ :=
      stops.calm later (run (.calm start)).outcome middle
    dsimp only [Trace.andThen]
    rw [ended]
    refine ⟨finish, stood, Nat.le_trans forward onward, ?_⟩
    intro made member
    rcases List.mem_append.mp member with here | there
    · exact ⟨(bounds made here).1, Nat.le_trans (bounds made here).2 onward⟩
    · exact ⟨Nat.le_trans forward (later_bounds made there).1, (later_bounds made there).2⟩
  · intro start instant enough
    obtain ⟨middle, ended, _, _⟩ := first.calm start
    obtain ⟨finish, stood, onward, _⟩ := stops.calm later (run (.calm start)).outcome middle
    dsimp only [Trace.andThen] at enough ⊢
    rw [ended] at enough ⊢
    have passed : middle ≤ instant := by
      rw [stood] at enough
      exact Nat.le_trans onward enough
    rw [first.due_of_ended ended passed, Trace.due_clock ended]
    dsimp only [Trace.due]
    rw [stops.early later _ enough]
    rfl
  · intro start instant started short
    obtain ⟨middle, ended, _, bounds⟩ := first.calm start
    dsimp only [Trace.andThen] at short ⊢
    rw [ended] at short ⊢
    rw [List.filter_append]
    by_cases passed : middle ≤ instant
    · -- the first part is over by then, so the cancellation falls into the second
      cases answered : (run (.calm start)).outcome with
      | error failure =>
        rw [answered, stops] at short
        exact absurd short (Nat.not_lt_of_le passed)
      | ok value =>
        rw [answered] at short
        obtain ⟨outcome, stop, made⟩ := (later value).cut middle instant passed short
        rw [first.due_of_ended ended passed, Trace.due_clock ended,
          made_until (fun call member => (bounds call member).2) passed]
        dsimp only [Trace.due]
        rw [answered]
        exact ⟨outcome, stop, congrArg _ made⟩
    · obtain ⟨outcome, stop, made⟩ :=
        first.cut start instant started (by rw [ended]; exact Nat.lt_of_not_le passed)
      obtain ⟨_, _, _, later_bounds⟩ := stops.calm later (run (.calm start)).outcome middle
      rw [outcome, stop, made, stops, made_after (fun call member => (later_bounds call member).1)
        (Nat.lt_of_not_le passed)]
      exact ⟨rfl, rfl, rfl⟩

end DevlogGraph
