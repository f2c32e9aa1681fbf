import Mathlib.Data.List.Nodup

/-! First occurrences: what `eraseDups` keeps of a list, and the only item of a name. -/
namespace DevlogGraph

variable {α : Type} [BEq α] [LawfulBEq α]

theorem filter_eraseDups (keep : α → Bool) (items : List α) :
    (items.filter keep).eraseDups = items.eraseDups.filter keep := by
  match items with
  | [] => rfl
  | first :: rest =>
    have inner := filter_eraseDups keep (rest.filter (!· == first))
    rw [List.eraseDups_cons, List.filter_cons, List.filter_cons]
    split
    · rw [List.eraseDups_cons, ← inner, List.filter_filter, List.filter_filter]
      simp only [Bool.and_comm]
    · rename_i dropped
      rw [← inner, List.filter_filter]
      congr 1
      apply List.filter_congr
      intro item _
      by_cases same : item = first
      · simp [same, dropped]
      · simp [same]
termination_by items.length
decreasing_by exact Nat.lt_succ_of_le (List.length_filter_le _ _)

theorem nodup_eraseDups (items : List α) : items.eraseDups.Nodup := by
  match items with
  | [] => simp
  | first :: rest =>
    rw [List.eraseDups_cons, List.nodup_cons, List.mem_eraseDups]
    exact ⟨by simp, nodup_eraseDups _⟩
termination_by items.length
decreasing_by exact Nat.lt_succ_of_le (List.length_filter_le _ _)

/-- First occurrences are in the order of their first places. -/
theorem pairwise_eraseDups {before : κ → κ → Prop} {placed : List (κ × α)}
    (ordered : placed.Pairwise fun early late => before early.1 late.1) :
    (placed.map (·.2)).eraseDups.Pairwise fun first second =>
      ∃ place, (place, first) ∈ placed ∧ ∀ later, (later, second) ∈ placed → before place later := by
  match placed with
  | [] => exact .nil
  | (place, first) :: rest =>
    obtain ⟨here, there⟩ := List.pairwise_cons.mp ordered
    have others : (rest.map (·.2)).filter (fun item => !item == first) =
        (rest.filter fun found => !found.2 == first).map (·.2) := List.filter_map
    rw [List.map_cons, List.eraseDups_cons, others, List.pairwise_cons]
    constructor
    · intro second member
      refine ⟨place, List.mem_cons_self, fun later found => ?_⟩
      obtain ⟨⟨_, _⟩, kept, rfl⟩ := List.mem_map.mp (List.mem_eraseDups.mp member)
      rcases List.mem_cons.mp found with same | behind
      · cases same
        simp at kept
      · exact here _ behind
    · refine (pairwise_eraseDups (there.filter _)).imp_of_mem ?_
      rintro second third _ member ⟨start, found, earliest⟩
      refine ⟨start, List.mem_cons_of_mem _ (List.mem_filter.mp found).1, fun later again => ?_⟩
      obtain ⟨⟨_, _⟩, kept, rfl⟩ := List.mem_map.mp (List.mem_eraseDups.mp member)
      rcases List.mem_cons.mp again with same | behind
      · cases same
        simp at kept
      · exact earliest later (List.mem_filter.mpr ⟨behind, (List.mem_filter.mp kept).2⟩)
termination_by placed.length
decreasing_by exact Nat.lt_succ_of_le (List.length_filter_le _ _)

/-- Where names are distinct, an item is found by its name. -/
theorem find_of_mem_of_nodup {items : List β} {name : β → String}
    (distinct : (items.map name).Nodup) (member : item ∈ items) :
    items.find? (fun other => name other == name item) = some item := by
  cases found : items.find? fun other => name other == name item with
  | none => simpa using List.find?_eq_none.mp found item member
  | some other =>
    have same : name other = name item := by simpa using List.find?_some found
    rw [List.inj_on_of_nodup_map distinct (List.mem_of_find?_eq_some found) member same]

end DevlogGraph
