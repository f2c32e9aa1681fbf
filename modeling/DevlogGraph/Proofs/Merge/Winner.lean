import DevlogGraph.Proofs.Merge
import DevlogGraph.Proofs.Score

/-! The winner among the offers for one name, whatever their scores: who it is, and that there is
never a second one. -/
namespace DevlogGraph.Merger

/-- The winner among the offers for one name: the first of them, unless a later one is above it, and
then the first of those that no other is above. What is not a number is above nothing, and nothing
is above it. -/
def Wins (offers : List Entity) (winner : Entity) : Prop :=
  ∃ earlier later, offers = earlier ++ winner :: later ∧
    (∀ first ∈ earlier.head?, first.confidence < winner.confidence) ∧
    (∀ other ∈ earlier, other.confidence.isNaN = false →
      other.confidence < winner.confidence) ∧
    ∀ other ∈ later, ¬ winner.confidence < other.confidence

theorem wins_single (entity : Entity) : Wins [entity] entity :=
  ⟨[], [], rfl, by simp, by simp, by simp⟩

/-- The winner so far against one more offer. -/
theorem Wins.prevail (wins : Wins offers held) (offered : Entity) :
    Wins (offers ++ [offered]) (prevail held offered) := by
  obtain ⟨earlier, later, rfl, above_first, above_earlier, unbeaten⟩ := wins
  unfold Merger.prevail
  split
  · rename_i better
    refine ⟨earlier ++ held :: later, [], by simp, ?_, ?_, by simp⟩
    · intro first starts
      cases earlier with
      | nil =>
        obtain rfl : held = first := by simpa using starts
        exact better
      | cons head rest =>
        exact Score.lt_trans (above_first first (by simpa using starts)) better
    · intro other member number
      rw [List.mem_append, List.mem_cons] at member
      rcases member with before | rfl | behind
      · exact Score.lt_trans (above_earlier other before number) better
      · exact better
      · exact Score.lt_of_not_lt (unbeaten other behind) better number
  · rename_i worse
    refine ⟨earlier, later ++ [offered], by simp, above_first, above_earlier, ?_⟩
    intro other member
    rcases List.mem_append.mp member with behind | last
    · exact unbeaten other behind
    · rwa [List.mem_singleton.mp last]

/-- Of two winners none stands before the other. -/
private theorem not_wins_before {earlier between : List Entity} {winner other : Entity}
    (above_first : ∀ first ∈ earlier.head?, first.confidence < winner.confidence)
    (unbeaten : ¬ winner.confidence < other.confidence)
    (other_first : ∀ first ∈ (earlier ++ winner :: between).head?,
      first.confidence < other.confidence)
    (other_above : winner.confidence.isNaN = false → winner.confidence < other.confidence) :
    False := by
  cases earlier with
  | nil => exact unbeaten (other_first winner (by simp))
  | cons head rest =>
    -- only the first offer can win without being a number
    have number := (Score.isNaN_of_lt (above_first head (by simp))).2
    exact unbeaten (other_above number)

theorem Wins.unique (first : Wins offers winner) (second : Wins offers other) : winner = other := by
  obtain ⟨earlier, later, rfl, above_first, above_earlier, unbeaten⟩ := first
  obtain ⟨before, behind, same, other_first, other_above, other_unbeaten⟩ := second
  rcases List.append_eq_append_iff.mp same with ⟨more, rfl, split⟩ | ⟨more, rfl, split⟩
  · cases more with
    | nil => exact (List.cons.inj split).1
    | cons head rest =>
      obtain ⟨rfl, rfl⟩ := List.cons.inj split
      exact (not_wins_before above_first (unbeaten other (by simp)) other_first
        (other_above winner (by simp))).elim
  · cases more with
    | nil => exact (List.cons.inj split).1.symm
    | cons head rest =>
      obtain ⟨rfl, rfl⟩ := List.cons.inj split
      exact (not_wins_before other_first (other_unbeaten winner (by simp)) above_first
        (above_earlier other (by simp))).elim

theorem wins_foldl (wins : Wins offers held) (rest : List Entity) :
    ∃ winner, rest.foldl challenge (some held) = some winner ∧ Wins (offers ++ rest) winner := by
  induction rest generalizing offers held with
  | nil => exact ⟨held, rfl, by rwa [List.append_nil]⟩
  | cons offered later ih =>
    obtain ⟨winner, found, wins_all⟩ := ih (wins.prevail offered)
    exact ⟨winner, found, by simpa using wins_all⟩

/-- Offers one after another leave the name to their winner. -/
theorem foldl_challenge_iff : offers.foldl challenge none = some winner ↔ Wins offers winner := by
  cases offers with
  | nil =>
    constructor
    · intro found
      cases found
    · rintro ⟨earlier, later, split, _⟩
      simp at split
  | cons first rest =>
    obtain ⟨found, same, wins⟩ := wins_foldl (wins_single first) rest
    have step : (first :: rest).foldl challenge none = some found := same
    rw [step]
    constructor
    · intro equal
      exact Option.some.inj equal ▸ wins
    · intro other
      exact congrArg some (wins.unique other)

theorem exists_wins_iff : (∃ winner, Wins offers winner) ↔ offers ≠ [] := by
  cases offers with
  | nil => simp [Wins]
  | cons first rest =>
    obtain ⟨winner, _, wins⟩ := wins_foldl (wins_single first) rest
    exact ⟨fun _ => by simp, fun _ => ⟨winner, wins⟩⟩

end DevlogGraph.Merger
