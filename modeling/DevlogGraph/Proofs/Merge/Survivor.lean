import Mathlib
import DevlogGraph.Proofs.Merge.Winner

/-! The merged list in closed form: which of the offers for a name is left in the end, and that the
index finds it at every moment of the run. -/
namespace DevlogGraph.Merger

/-- A score that is a number, and that no offer is above. -/
def Unbeaten (offers : List Entity) (entity : Entity) : Prop :=
  entity.confidence.isNaN = false ∧ ∀ other ∈ offers, ¬ entity.confidence < other.confidence

instance (offers : List Entity) (entity : Entity) : Decidable (Unbeaten offers entity) :=
  inferInstanceAs (Decidable (_ ∧ _))

/-- What is left of the offers for one name: the first of them if its score is not a number, else
the first that is unbeaten. -/
def survivor? (offers : List Entity) : Option Entity :=
  if offers.head?.any (·.confidence.isNaN) then offers.head?
  else offers.find? fun entity => decide (Unbeaten offers entity)

private theorem not_lt_self (score : Float) : ¬ score < score := by
  rw [Score.lt_iff_place]
  exact fun below => lt_irrefl _ below.2.2

private theorem not_lt_of_lt {low high : Float} (below : low < high) : ¬ high < low :=
  fun above => not_lt_self low (Score.lt_trans below above)

/-- What stands above all earlier numbers and below nothing later is unbeaten. -/
private theorem unbeaten_of_wins {earlier later : List Entity} {winner : Entity}
    (number : winner.confidence.isNaN = false)
    (above : ∀ other ∈ earlier, other.confidence.isNaN = false →
      other.confidence < winner.confidence)
    (unbeaten : ∀ other ∈ later, ¬ winner.confidence < other.confidence) :
    Unbeaten (earlier ++ winner :: later) winner := by
  refine ⟨number, fun other member better => ?_⟩
  rw [List.mem_append, List.mem_cons] at member
  rcases member with before | rfl | after
  · exact not_lt_of_lt better (above other before (Score.isNaN_of_lt better).2)
  · exact not_lt_self _ better
  · exact unbeaten other after better

/-- The winner is the survivor. -/
theorem Wins.survivor (wins : Wins offers winner) : survivor? offers = some winner := by
  obtain ⟨earlier, later, rfl, above_first, above_earlier, unbeaten⟩ := wins
  unfold survivor?
  split
  · rename_i unscored
    cases earlier with
    | nil => rfl
    | cons first rest =>
      -- a first offer that is not a number is below nothing
      have number := (Score.isNaN_of_lt (above_first first rfl)).1
      change first.confidence.isNaN = true at unscored
      rw [number] at unscored
      cases unscored
  · rename_i scored
    have number : winner.confidence.isNaN = false := by
      cases earlier with
      | nil => exact Bool.eq_false_iff.mpr scored
      | cons first rest => exact (Score.isNaN_of_lt (above_first first rfl)).2
    rw [List.find?_eq_some_iff_append]
    refine ⟨decide_eq_true (unbeaten_of_wins number above_earlier unbeaten), earlier, later, rfl, ?_⟩
    intro other member
    rw [Bool.not_eq_true', decide_eq_false_iff_not]
    rintro ⟨other_number, other_unbeaten⟩
    exact other_unbeaten winner (by simp) (above_earlier other member other_number)

private theorem foldl_challenge_eq_survivor (offers : List Entity) :
    offers.foldl challenge none = survivor? offers := by
  cases offers with
  | nil => rfl
  | cons first rest =>
    obtain ⟨winner, found, wins⟩ := wins_foldl (wins_single first) rest
    exact Eq.trans (b := some winner) found wins.survivor.symm

theorem holder_offerAll (name : String) (offers : List Entity) :
    holder? name (offerAll {} offers).entities = survivor? (offers.filter (·.name == name)) := by
  rw [offerAll_entities, holder_settleAll]
  exact foldl_challenge_eq_survivor _

private theorem mem_of_survivor (left : survivor? offers = some entity) : entity ∈ offers := by
  unfold survivor? at left
  split at left
  · exact List.mem_of_mem_head? left
  · exact List.mem_of_find?_eq_some left

/-- The index leads from each name to the slot of the one entity that bears it, and knows no other
names. -/
def Indexed (merger : Merger) : Prop :=
  ∀ name slot, merger.slots.lookup name = some slot ↔
    ∃ held, merger.entities[slot]? = some held ∧ held.name = name

theorem lookup_zipIdx_iff {names : List String} (distinct : names.Nodup) (start : Nat) :
    (names.zipIdx start).lookup name = some slot ↔ start ≤ slot ∧ names[slot - start]? = some name := by
  induction names generalizing start with
  | nil => simp
  | cons first rest ih =>
    obtain ⟨fresh, distinct⟩ := List.nodup_cons.mp distinct
    rw [List.zipIdx_cons, List.lookup_cons]
    by_cases same : name = first
    · subst same
      rw [beq_self_eq_true, Option.some.injEq]
      constructor
      · rintro rfl
        simp
      · rintro ⟨reached, found⟩
        by_contra other
        obtain ⟨place, moved⟩ := Nat.exists_eq_succ_of_ne_zero (n := slot - start) (by omega)
        rw [moved, Nat.succ_eq_add_one, List.getElem?_cons_succ] at found
        exact fresh (List.mem_of_getElem? found)
    · rw [beq_false_of_ne same]
      dsimp only
      rw [ih distinct]
      constructor
      · rintro ⟨reached, found⟩
        have moved : slot - start = slot - (start + 1) + 1 := by omega
        exact ⟨by omega, by rw [moved, List.getElem?_cons_succ, found]⟩
      · rintro ⟨reached, found⟩
        have later : start ≠ slot := by
          rintro rfl
          rw [Nat.sub_self, List.getElem?_cons_zero] at found
          exact same (Option.some.inj found).symm
        have moved : slot - start = slot - (start + 1) + 1 := by omega
        rw [moved, List.getElem?_cons_succ] at found
        exact ⟨by omega, found⟩

private theorem indexed_of_aligned {merger : Merger} (aligned : Aligned merger)
    (distinct : (merger.entities.map (·.name)).Nodup) : Indexed merger := by
  intro name slot
  rw [aligned, lookup_zipIdx_iff distinct, Nat.sub_zero, List.getElem?_map, Option.map_eq_some_iff]
  exact and_iff_right (Nat.zero_le slot)

theorem offerAll_names (offers : List Entity) :
    (offerAll {} offers).entities.map (·.name) = (offers.map (·.name)).eraseDups := by
  rw [offerAll_entities, settleAll_names]
  simp

theorem offerAll_distinct (offers : List Entity) :
    ((offerAll {} offers).entities.map (·.name)).Nodup := by
  rw [offerAll_names]
  exact nodup_eraseDups _

theorem offerAll_indexed (offers : List Entity) : Indexed (offerAll {} offers) :=
  indexed_of_aligned (offerAll_spec empty_aligned offers).2 (offerAll_distinct offers)

/-- After any offers the list holds one entity for each name, in the order in which the names were
first offered. It is the survivor among the offers for its name, as it was offered. At every moment
of the run the index leads from each name to its slot, so the slot that an offer looks up is there. -/
theorem offerAll_survivors (offers : List Entity) :
    (offerAll {} offers).entities.map (·.name) = (offers.map (·.name)).eraseDups ∧
    ((offerAll {} offers).entities.map (·.name)).Nodup ∧
    (∀ entity ∈ (offerAll {} offers).entities,
      survivor? (offers.filter (·.name == entity.name)) = some entity) ∧
    (∀ entity ∈ (offerAll {} offers).entities, entity ∈ offers) ∧
    ∀ before after, offers = before ++ after → Indexed (offerAll {} before) ∧
      offerAll {} offers = (offerAll {} before).offerAll after ∧
      ∀ offered ∈ after.head?, ∀ slot, (offerAll {} before).slots.lookup offered.name = some slot →
        slot < (offerAll {} before).entities.length := by
  have survivors : ∀ entity ∈ (offerAll {} offers).entities,
      survivor? (offers.filter (·.name == entity.name)) = some entity := by
    intro entity member
    rw [← holder_offerAll]
    exact holder_of_mem (offerAll_distinct offers) member
  refine ⟨offerAll_names offers, offerAll_distinct offers, survivors, ?_, ?_⟩
  · intro entity member
    exact List.mem_of_mem_filter (mem_of_survivor (survivors entity member))
  · rintro before after rfl
    have indexed := offerAll_indexed before
    refine ⟨indexed, offerAll_append {} before after, ?_⟩
    intro offered _ slot found
    obtain ⟨held, present, _⟩ := (indexed offered.name slot).mp found
    exact (List.getElem?_eq_some_iff.mp present).1

-- zeros are ties, a later NaN never replaces, and a first NaN is never replaced
example : (offerAll {} [⟨"a", "first", -0.0, "x"⟩, ⟨"b", "nan", 0.0 / 0.0, "x"⟩,
    ⟨"c", "low", -3.0, "x"⟩, ⟨"a", "second", 0.0, "y"⟩, ⟨"b", "one", 1.0, "y"⟩,
    ⟨"c", "nan", 0.0 / 0.0, "y"⟩, ⟨"c", "high", 1.0 / 0.0, "y"⟩]).entities.map (·.kind) =
      ["first", "nan", "high"] := by decide +kernel

end DevlogGraph.Merger
