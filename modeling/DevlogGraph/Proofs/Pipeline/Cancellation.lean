import DevlogGraph.Proofs.Model.Extractor
import DevlogGraph.Proofs.Pipeline

/-! Cancelled runs of a pipeline. The cancellation finds one model waiting and ends its wait; models
after it do not even call, while extractors that need no service go on as ever. -/
namespace DevlogGraph

/-- The kinds of extractors. -/
inductive Member where
  | model (extractor : Model.Extractor)
  | pattern
  | fixed (name : String) (answer : Except Failure Extraction)

namespace Member

def extractor : Member → Extractor
  | model extractor => .ofModel extractor
  | pattern => .pattern
  | fixed name answer => .fixed name answer

/-- What a member answers once the run is cancelled. -/
def lateAnswer (devlog : String) : Member → Except Failure Extraction
  | model _ => .error .cancelled
  | pattern => .ok (Pattern.extract devlog)
  | fixed _ answer => answer

theorem timely (devlog : String) (member : Member) : Timely (member.extractor.extract devlog) := by
  cases member with
  | model extractor => exact extractor.extract_timely devlog
  | pattern => exact timely_of_still (.ok (Pattern.extract devlog)) [] fun _ => rfl
  | fixed name answer => exact timely_of_still answer [] fun _ => rfl

private theorem extract_late (devlog : String) (member : Member)
    (cancelled : clock.cancelled = true) :
    member.extractor.extract devlog clock =
      { outcome := member.lateAnswer devlog, clock := clock } := by
  cases member with
  | model extractor => exact extractor.extract_cancelled devlog cancelled
  | pattern => rfl
  | fixed name answer => rfl

/-- Only a model takes time. -/
private theorem model_of_waits {member : Member} (start : Nat)
    (waits : start < (member.extractor.extract devlog (.calm start)).clock.now) :
    ∃ extractor, member = .model extractor := by
  cases member with
  | model extractor => exact ⟨extractor, rfl⟩
  | pattern => exact absurd waits (Nat.lt_irrefl _)
  | fixed name answer => exact absurd waits (Nat.lt_irrefl _)

end Member

/-- The same turn, with a cancellation that is still to come. -/
def Turn.due (instant : Nat) (turn : Turn) : Turn := { turn with trace := turn.trace.due instant }

/-- What is still to come leaves no mark on the turns. -/
private theorem map_due_answers (instant : Nat) (turns : List Turn) :
    (turns.map (Turn.due instant)).map (·.answer) = turns.map (·.answer) := by
  rw [List.map_map]
  rfl

private theorem map_due_made (instant : Nat) (turns : List Turn) :
    (turns.map (Turn.due instant)).flatMap (·.trace.made) = turns.flatMap (·.trace.made) := by
  rw [List.flatMap_map]
  rfl

private theorem map_due_events (instant : Nat) (turns : List Turn) :
    ((turns.map (Turn.due instant)).flatMap fun turn => turn.trace.events ++ [turn.verdict]) =
      turns.flatMap fun turn => turn.trace.events ++ [turn.verdict] := by
  rw [List.flatMap_map]
  rfl

namespace Pipeline

variable {devlog : String} {members : List Member}

/-- A pipeline of these members. -/
def ofMembers (members : List Member) : Pipeline := ⟨members.map Member.extractor⟩

private theorem afterTurns_calm (devlog : String) (members : List Member) (start : Nat) :
    ∃ finish, afterTurns devlog (members.map Member.extractor) (.calm start) = .calm finish ∧
      start ≤ finish ∧
      ∀ made ∈ (turns devlog (members.map Member.extractor) (.calm start)).flatMap (·.trace.made),
        start ≤ made.instant ∧ made.instant ≤ finish := by
  induction members generalizing start with
  | nil => exact ⟨start, rfl, Nat.le_refl _, by simp [turns]⟩
  | cons member later ih =>
    obtain ⟨middle, ended, forward, bounds⟩ := (member.timely devlog).calm start
    obtain ⟨finish, stood, onward, later_bounds⟩ := ih middle
    refine ⟨finish, ?_, Nat.le_trans forward onward, ?_⟩
    · rw [List.map_cons, afterTurns, ended, stood]
    · intro made member
      rw [List.map_cons, turns, ended, List.flatMap_cons, List.mem_append] at member
      rcases member with here | there
      · have known := bounds made here
        omega
      · have known := later_bounds made there
        omega

/-- A cancellation after the end changes no turn. -/
private theorem turns_due (start : Nat)
    (enough : (afterTurns devlog (members.map Member.extractor) (.calm start)).now ≤ instant) :
    turns devlog (members.map Member.extractor) (.due start instant) =
        (turns devlog (members.map Member.extractor) (.calm start)).map (Turn.due instant) ∧
      afterTurns devlog (members.map Member.extractor) (.due start instant) =
        .due (afterTurns devlog (members.map Member.extractor) (.calm start)).now instant := by
  induction members generalizing start with
  | nil => exact ⟨rfl, rfl⟩
  | cons member later ih =>
    obtain ⟨middle, ended, _, _⟩ := (member.timely devlog).calm start
    obtain ⟨finish, stood, onward, _⟩ := afterTurns_calm devlog later middle
    rw [List.map_cons, afterTurns, ended] at enough
    have passed : middle ≤ instant := by
      rw [stood] at enough
      exact Nat.le_trans onward enough
    obtain ⟨same_turns, same_end⟩ := ih middle enough
    have same := (member.timely devlog).due_of_ended ended passed
    rw [List.map_cons, turns, afterTurns, turns, afterTurns, same, Trace.due_clock ended, ended,
      same_turns, same_end]
    exact ⟨rfl, rfl⟩

/-- Once the run is cancelled nobody calls, and nobody takes time. -/
private theorem turns_late (devlog : String) (members : List Member)
    (cancelled : clock.cancelled = true) :
    turns devlog (members.map Member.extractor) clock = members.map (fun member =>
        ⟨member.extractor.name, { outcome := member.lateAnswer devlog, clock := clock }⟩) ∧
      afterTurns devlog (members.map Member.extractor) clock = clock := by
  induction members with
  | nil => exact ⟨rfl, rfl⟩
  | cons member later ih =>
    rw [List.map_cons, turns, afterTurns, member.extract_late devlog cancelled, ih.1, ih.2]
    exact ⟨rfl, rfl⟩

/-- Where a cancellation within the run falls: some member waits at that instant. -/
private theorem exists_waiting (start : Nat) (started : start ≤ instant)
    (short : instant < (afterTurns devlog (members.map Member.extractor) (.calm start)).now) :
    ∃ before waiting after begin, members = before ++ waiting :: after ∧
      afterTurns devlog (before.map Member.extractor) (.calm start) = .calm begin ∧
      begin ≤ instant ∧
      instant < (waiting.extractor.extract devlog (.calm begin)).clock.now := by
  induction members generalizing start with
  | nil => exact absurd short (Nat.not_lt_of_le started)
  | cons member later ih =>
    by_cases inside : instant < (member.extractor.extract devlog (.calm start)).clock.now
    · exact ⟨[], member, later, start, rfl, rfl, started, inside⟩
    · obtain ⟨middle, ended, _, _⟩ := (member.timely devlog).calm start
      rw [List.map_cons, afterTurns, ended] at short
      rw [ended] at inside
      obtain ⟨before, waiting, after, begin, split, reached, begun, waits⟩ :=
        ih middle (Nat.le_of_not_lt inside) short
      refine ⟨member :: before, waiting, after, begin, by rw [split, List.cons_append], ?_, begun,
        waits⟩
      rw [List.map_cons, afterTurns, ended, reached]

/-- The turn of a member after the cancellation. -/
def lateTurn (devlog : String) (instant : Nat) (member : Member) : Turn :=
  ⟨member.extractor.name, { outcome := member.lateAnswer devlog, clock := .stopped instant }⟩

/-- One turn between those before it and those after it. -/
private theorem turns_around {before : List Member} (member : Member) (after : List Member)
    (reached : afterTurns devlog (before.map Member.extractor) clock = begin) :
    turns devlog ((before ++ member :: after).map Member.extractor) clock =
        turns devlog (before.map Member.extractor) clock ++
          ⟨member.extractor.name, member.extractor.extract devlog begin⟩ ::
            turns devlog (after.map Member.extractor)
              (member.extractor.extract devlog begin).clock ∧
      afterTurns devlog ((before ++ member :: after).map Member.extractor) clock =
        afterTurns devlog (after.map Member.extractor)
          (member.extractor.extract devlog begin).clock := by
  rw [List.map_append, turns_append, afterTurns_append, reached]
  exact ⟨rfl, rfl⟩

/-- The turns of a run that is cancelled while a member waits. -/
theorem turns_cut {before : List Member} (waiting : Member) (after : List Member)
    (reached : afterTurns devlog (before.map Member.extractor) (.calm start) = .calm begin)
    (begun : begin ≤ instant)
    (waits : instant < (waiting.extractor.extract devlog (.calm begin)).clock.now) :
    turns devlog ((before ++ waiting :: after).map Member.extractor) (.due start instant) =
        (turns devlog (before.map Member.extractor) (.calm start)).map (Turn.due instant) ++
          ⟨waiting.extractor.name, waiting.extractor.extract devlog (.due begin instant)⟩ ::
            after.map (lateTurn devlog instant) ∧
      afterTurns devlog ((before ++ waiting :: after).map Member.extractor) (.due start instant) =
        .stopped instant := by
  obtain ⟨_, stop, _⟩ := (waiting.timely devlog).cut begin instant begun waits
  have enough : (afterTurns devlog (before.map Member.extractor) (.calm start)).now ≤ instant := by
    rw [reached]
    exact begun
  obtain ⟨before_turns, before_end⟩ := turns_due start enough
  rw [reached] at before_end
  obtain ⟨all_turns, all_end⟩ := turns_around waiting after before_end
  have stopped : (Clock.stopped instant).cancelled = true := rfl
  obtain ⟨late_turns, late_end⟩ := turns_late devlog after stopped
  rw [all_turns, all_end, before_turns]
  dsimp only [Clock.calm]
  rw [stop, late_turns, late_end]
  exact ⟨rfl, rfl⟩

/-- A cancellation after the end of a run changes nothing in it. -/
theorem run_due (start : Nat)
    (enough : ((ofMembers members).run devlog (.calm start)).clock.now ≤ instant) :
    (ofMembers members).run devlog (.due start instant) =
      ((ofMembers members).run devlog (.calm start)).due instant := by
  rw [run_clock] at enough
  obtain ⟨same_turns, same_end⟩ := turns_due start enough
  obtain ⟨finish, ended, _, _⟩ := afterTurns_calm devlog members start
  simp only [run, Trace.andThen, collect_eq, ofMembers, same_turns, same_end, map_due_answers,
    map_due_made, map_due_events, ended]
  rfl

/-- The calls of a cancelled run are those that the full run makes until then. -/
private theorem run_cut_made {before after : List Member}
    (reached : afterTurns devlog (before.map Member.extractor) (.calm start) = .calm begin)
    (begun : begin ≤ instant)
    (waits : instant < (waiting.extractor.extract devlog (.calm begin)).clock.now) :
    ((ofMembers (before ++ waiting :: after)).run devlog (.due start instant)).made =
      ((ofMembers (before ++ waiting :: after)).run devlog (.calm start)).made.filter
        (·.instant ≤ instant) := by
  obtain ⟨middle, ended, _, _⟩ := (waiting.timely devlog).calm begin
  obtain ⟨_, _, made⟩ := (waiting.timely devlog).cut begin instant begun waits
  obtain ⟨_, before_end, _, before_bounds⟩ := afterTurns_calm devlog before start
  obtain ⟨_, _, _, after_bounds⟩ := afterTurns_calm devlog after middle
  rw [reached] at before_end
  cases before_end
  rw [ended] at waits
  have until_then : ((turns devlog (before.map Member.extractor) (.calm start)).flatMap
      (·.trace.made)).filter (·.instant ≤ instant) =
      (turns devlog (before.map Member.extractor) (.calm start)).flatMap (·.trace.made) :=
    made_until (fun call member => (before_bounds call member).2) begun
  have none_later : ((turns devlog (after.map Member.extractor) (.calm middle)).flatMap
      (·.trace.made)).filter (·.instant ≤ instant) = [] :=
    made_after (fun call member => (after_bounds call member).1) waits
  have silent : (after.map (lateTurn devlog instant)).flatMap (·.trace.made) = [] := by
    simp [List.flatMap_map, lateTurn]
  rw [run_made, run_made, ofMembers]
  dsimp only
  rw [(turns_cut waiting after reached begun (by rw [ended]; exact waits)).1,
    (turns_around waiting after reached).1, ended]
  rw [List.flatMap_append, List.flatMap_append, List.flatMap_cons, List.flatMap_cons,
    List.filter_append, List.filter_append, until_then, none_later, silent, map_due_made, made]

private theorem run_cancelled_made (members : List Member) (devlog : String) (clock : Clock)
    (cancelled : clock.cancelled = true) : ((ofMembers members).run devlog clock).made = [] := by
  rw [run_made, ofMembers]
  dsimp only
  rw [(turns_late devlog members cancelled).1]
  simp [List.flatMap_map]

private theorem run_due_made (members : List Member) (devlog : String) (instant : Nat) :
    ((ofMembers members).run devlog (.due 0 instant)).made =
      ((ofMembers members).run devlog (.calm 0)).made.filter (·.instant ≤ instant) := by
  by_cases enough : ((ofMembers members).run devlog (.calm 0)).clock.now ≤ instant
  · obtain ⟨finish, ended, _, bounds⟩ := afterTurns_calm devlog members 0
    rw [run_clock, ofMembers, ended] at enough
    have all_made : ((ofMembers members).run devlog (.calm 0)).made.filter (·.instant ≤ instant) =
        ((ofMembers members).run devlog (.calm 0)).made := by
      rw [run_made]
      exact made_until (fun call member => (bounds call member).2) enough
    rw [run_due 0 (by rw [run_clock, ofMembers, ended]; exact enough), all_made]
    rfl
  · rw [run_clock] at enough
    obtain ⟨before, waiting, after, begin, rfl, reached, begun, waits⟩ :=
      exists_waiting 0 (Nat.zero_le _) (Nat.lt_of_not_le enough)
    exact run_cut_made reached begun waits

/-- The run is cancelled while this model waits: it fails, the models after it fail without a call,
and the report merges what had been found before with what needs no service. -/
structure CutShort (members : List Member) (devlog : String) (instant : Nat)
    (before : List Member) (waiting : Model.Extractor) (after : List Member) : Prop where
  order : members = before ++ .model waiting :: after
  begun : ((ofMembers before).run devlog (.calm 0)).clock.now ≤ instant
  waits : instant < ((ofMembers (before ++ [.model waiting])).run devlog (.calm 0)).clock.now
  answers : (turns devlog (ofMembers members).extractors (.due 0 instant)).map (·.answer) =
    (turns devlog (ofMembers before).extractors (.calm 0)).map (·.answer) ++
      ("llm", .error .cancelled) ::
        after.map fun member => (member.extractor.name, member.lateAnswer devlog)
  silent : ∀ turn ∈ (turns devlog (ofMembers members).extractors (.due 0 instant)).drop
    (before.length + 1), turn.trace.made = []
  merged : ((ofMembers members).run devlog (.due 0 instant)).outcome.MergedFrom
    (successes ((turns devlog (ofMembers before).extractors (.calm 0)).map (·.answer)) ++
      successes (after.map fun member => (member.extractor.name, member.lateAnswer devlog)))

private theorem length_turns (devlog : String) (extractors : List Extractor) (clock : Clock) :
    (turns devlog extractors clock).length = extractors.length := by
  have names := congrArg List.length (turns_names devlog extractors clock)
  simpa using names

private theorem cutShort_of_waiting {before after : List Member} {waiting : Model.Extractor}
    (reached : afterTurns devlog (before.map Member.extractor) (.calm 0) = .calm begin)
    (begun : begin ≤ instant)
    (waits : instant < (waiting.extract devlog (.calm begin)).clock.now) :
    CutShort (before ++ .model waiting :: after) devlog instant before waiting after := by
  obtain ⟨outcome, _, _⟩ := (waiting.extract_timely devlog).cut begin instant begun waits
  obtain ⟨all_turns, _⟩ := turns_cut (.model waiting) after reached begun waits
  have answers : (turns devlog (ofMembers (before ++ .model waiting :: after)).extractors
      (.due 0 instant)).map (·.answer) =
      (turns devlog (ofMembers before).extractors (.calm 0)).map (·.answer) ++
        ("llm", .error .cancelled) ::
          after.map fun member => (member.extractor.name, member.lateAnswer devlog) := by
    have stopped : Turn.answer ⟨"llm", waiting.extract devlog (.due begin instant)⟩ =
        ("llm", .error .cancelled) :=
      congrArg (Prod.mk "llm") outcome
    dsimp only [ofMembers]
    rw [all_turns, List.map_append, List.map_cons, List.map_map, List.map_map, ← stopped]
    rfl
  refine ⟨rfl, ?_, ?_, answers, ?_, ?_⟩
  · rw [run_clock, ofMembers, reached]
    exact begun
  · rw [run_clock, ofMembers, List.map_append, afterTurns_append, reached]
    exact waits
  · intro turn member
    dsimp only [ofMembers] at member
    have length : before.length =
        ((turns devlog (before.map Member.extractor) (.calm 0)).map (Turn.due instant)).length := by
      rw [List.length_map, length_turns, List.length_map]
    have rest (front later : List Turn) (stopped : Turn) :
        (front ++ stopped :: later).drop (front.length + 1) = later := by
      simp [List.drop_append]
    rw [all_turns, length, rest] at member
    obtain ⟨_, _, rfl⟩ := List.mem_map.mp member
    rfl
  · have merged := run_merged (ofMembers (before ++ .model waiting :: after)) devlog
      (.due 0 instant)
    rw [answers, successes_append, successes_error] at merged
    exact merged

/-- Cancellation is prompt and contained. No call is made once a run is cancelled, and a run with a
cancellation to come makes the calls that fall before it. Coming after the end it changes nothing;
coming earlier it ends the run at that instant, in the wait of one model. A single model has then
made one call or two, depending on which of its waits was ended. -/
theorem run_cancelled (members : List Member) (devlog : String) (instant : Nat) :
    let calm := (ofMembers members).run devlog (.calm 0)
    let cut := (ofMembers members).run devlog (.due 0 instant)
    (∀ clock, clock.cancelled = true → ((ofMembers members).run devlog clock).made = []) ∧
    (∀ made ∈ cut.made, made.instant ≤ instant) ∧
    cut.made = calm.made.filter (·.instant ≤ instant) ∧
    (calm.clock.now ≤ instant → cut.outcome = calm.outcome ∧ cut.made = calm.made ∧
      cut.events = calm.events ∧ cut.clock.now = calm.clock.now) ∧
    (instant < calm.clock.now → cut.clock.now = instant ∧
      ∃ before waiting after, CutShort members devlog instant before waiting after) ∧
    ∀ model : Model.Extractor,
      (instant < model.probeLength →
        (model.extract devlog (.due 0 instant)).outcome = .error .cancelled ∧
        (model.extract devlog (.due 0 instant)).clock.now = instant ∧
        (model.extract devlog (.due 0 instant)).calls = [.listModels]) ∧
      (∀ models, model.probeAnswer = .ok models → model.probeLength ≤ instant →
        instant < model.probeLength + (model.service.reply (model.request devlog)).delay →
        (model.extract devlog (.due 0 instant)).outcome = .error .cancelled ∧
        (model.extract devlog (.due 0 instant)).clock.now = instant ∧
        (model.extract devlog (.due 0 instant)).calls =
          [.listModels, .generate (model.request devlog)]) := by
  intro calm cut
  have kept : cut.made = calm.made.filter (·.instant ≤ instant) :=
    run_due_made members devlog instant
  refine ⟨run_cancelled_made members devlog, ?_, kept, ?_, ?_, ?_⟩
  · intro made member
    rw [kept] at member
    simpa using (List.mem_filter.mp member).2
  · intro enough
    have same : cut = calm.due instant := run_due 0 enough
    rw [same]
    exact ⟨rfl, rfl, rfl, rfl⟩
  · intro short
    have ended : calm.clock = afterTurns devlog (members.map Member.extractor) (.calm 0) :=
      run_clock (ofMembers members) devlog (.calm 0)
    rw [ended] at short
    obtain ⟨before, member, after, begin, rfl, reached, begun, waits⟩ :=
      exists_waiting 0 (Nat.zero_le _) short
    obtain ⟨waiting, rfl⟩ := Member.model_of_waits begin (Nat.lt_of_le_of_lt begun waits)
    refine ⟨?_, before, waiting, after, cutShort_of_waiting reached begun waits⟩
    have stop := (turns_cut (.model waiting) after reached begun waits).2
    show ((ofMembers _).run devlog (.due 0 instant)).clock.now = instant
    rw [run_clock, ofMembers, stop]
    rfl
  · intro model
    constructor
    · intro short
      rw [← Nat.zero_add model.probeLength] at short
      obtain ⟨outcome, stop, made⟩ := model.extract_cut_in_probe devlog (Nat.zero_le instant) short
      rw [Trace.calls, outcome, stop, made]
      exact ⟨rfl, rfl, rfl⟩
    · intro models listed passed short
      rw [← Nat.zero_add model.probeLength] at passed short
      obtain ⟨outcome, stop, made⟩ := model.extract_cut_in_generation devlog 0 listed passed short
      rw [Trace.calls, outcome, stop, made]
      exact ⟨rfl, rfl, rfl⟩

/-- A cancellation in the probe of the only model. -/
theorem run_cancelled_in_probe :
    let model : Model.Extractor := ⟨"small", 10, ⟨⟨5, .ok []⟩, fun _ => ⟨7, .error .cancelled⟩⟩⟩
    let members : List Member := [.fixed "first" (.ok {}), .model model, .fixed "last" (.ok {})]
    let cut := (ofMembers members).run "" (.due 0 3)
    3 < ((ofMembers members).run "" (.calm 0)).clock.now ∧ cut.clock.now = 3 ∧
      cut.calls = [.listModels] ∧ cut.outcome.extractor = "first+last" ∧
      ∃ before waiting after, CutShort members "" 3 before waiting after := by
  intro model members cut
  obtain ⟨_, _, kept, _, cut_short, _⟩ := run_cancelled members "" 3
  have within : 3 < ((ofMembers members).run "" (.calm 0)).clock.now := by decide
  obtain ⟨ended, split⟩ := cut_short within
  refine ⟨within, ended, ?_, by decide, split⟩
  show cut.made.map (·.call) = [.listModels]
  rw [show cut.made = _ from kept]
  rfl

end Pipeline

end DevlogGraph
