import DevlogGraph.Merge
import DevlogGraph.Proofs.Distinct

/-! What a merger holds after any offers: one entity a name, in the order of first sight. The index
is only a way to find the slot of a name. -/
namespace DevlogGraph.Merger

/-- Every name is listed with the slot of the entity that bears it. -/
def Aligned (merger : Merger) : Prop := merger.slots = (merger.entities.map (·.name)).zipIdx

/-- Which of two entities of one name stays; on a tie it is the one that came first. -/
def prevail (held offered : Entity) : Entity :=
  if held.confidence < offered.confidence then offered else held

/-- One offer taken into a list by going through it. -/
def settle (offered : Entity) : List Entity → List Entity
  | [] => [offered]
  | held :: rest =>
      if held.name = offered.name then prevail held offered :: rest
      else held :: settle offered rest

def settleAll (held offers : List Entity) : List Entity :=
  offers.foldl (fun held offered => settle offered held) held

/-- The entity that stands for a name. -/
def holder? (name : String) (held : List Entity) : Option Entity :=
  held.find? (·.name == name)

theorem prevail_name {held offered : Entity} (same : held.name = offered.name) :
    (prevail held offered).name = offered.name := by
  unfold prevail
  split
  · rfl
  · exact same

private theorem settle_fresh {held : List Entity} (fresh : offered.name ∉ held.map (·.name)) :
    settle offered held = held ++ [offered] := by
  induction held with
  | nil => rfl
  | cons first rest ih =>
    rw [List.map_cons, List.mem_cons, not_or] at fresh
    rw [settle, if_neg (fun same => fresh.1 same.symm), ih fresh.2, List.cons_append]

private theorem settle_held {before after : List Entity}
    (absent : offered.name ∉ before.map (·.name)) (same : held.name = offered.name) :
    settle offered (before ++ held :: after) = before ++ prevail held offered :: after := by
  induction before with
  | nil => simp [settle, same]
  | cons first rest ih =>
    rw [List.map_cons, List.mem_cons, not_or] at absent
    simp only [List.cons_append, settle]
    rw [if_neg (fun equal => absent.1 equal.symm), ih absent.2]

private theorem lookup_slot_none {names : List String} (start : Nat)
    (missing : (names.zipIdx start).lookup name = none) : name ∉ names := by
  induction names generalizing start with
  | nil => simp
  | cons first rest ih =>
    rw [List.zipIdx_cons, List.lookup_cons] at missing
    split at missing
    · cases missing
    · rename_i different
      rw [List.mem_cons, not_or]
      exact ⟨by simpa using different, ih (start + 1) missing⟩

private theorem lookup_slot_some {entities : List Entity} (start : Nat)
    (found : ((entities.map (·.name)).zipIdx start).lookup name = some slot) :
    ∃ before held after, entities = before ++ held :: after ∧ slot = start + before.length ∧
      held.name = name ∧ name ∉ before.map (·.name) := by
  induction entities generalizing start with
  | nil => simp at found
  | cons first rest ih =>
    rw [List.map_cons, List.zipIdx_cons, List.lookup_cons] at found
    split at found
    · rename_i same
      cases found
      exact ⟨[], first, rest, rfl, rfl, (beq_iff_eq.mp same).symm, by simp⟩
    · rename_i different
      obtain ⟨before, held, after, split, place, same, absent⟩ := ih (start + 1) found
      refine ⟨first :: before, held, after, by simp [split], ?_, same, ?_⟩
      · rw [place, List.length_cons]
        omega
      · rw [List.map_cons, List.mem_cons, not_or]
        exact ⟨by simpa using different, absent⟩

/-- The index never misses a name and never points beside it, so an offer does what going through
the list would do. -/
theorem offer_spec {merger : Merger} (aligned : Aligned merger) (offered : Entity) :
    (merger.offer offered).entities = settle offered merger.entities ∧
      Aligned (merger.offer offered) := by
  obtain ⟨entities, slots⟩ := merger
  simp only [Aligned] at aligned ⊢
  subst aligned
  unfold offer
  dsimp only
  split
  · rename_i slot found
    obtain ⟨before, held, after, rfl, place, same, absent⟩ := lookup_slot_some 0 found
    rw [Nat.zero_add] at place
    subst place
    rw [settle_held absent same]
    simp only [List.getElem?_append_right (Nat.le_refl _), Nat.sub_self, List.getElem?_cons_zero]
    unfold prevail
    split
    · simp [same]
    · simp
  · rename_i missing
    rw [settle_fresh (lookup_slot_none 0 missing)]
    simp [List.zipIdx_append]

theorem empty_aligned : Aligned {} := rfl

theorem offerAll_spec {merger : Merger} (aligned : Aligned merger) (offers : List Entity) :
    (merger.offerAll offers).entities = settleAll merger.entities offers ∧
      Aligned (merger.offerAll offers) := by
  induction offers generalizing merger with
  | nil => exact ⟨rfl, aligned⟩
  | cons offered rest ih =>
    obtain ⟨settled, kept⟩ := offer_spec aligned offered
    obtain ⟨entities, still⟩ := ih kept
    refine ⟨?_, still⟩
    rw [settled] at entities
    exact entities

theorem offerAll_entities (offers : List Entity) :
    (offerAll {} offers).entities = settleAll [] offers :=
  (offerAll_spec empty_aligned offers).1

theorem offerAll_append (merger : Merger) (first second : List Entity) :
    merger.offerAll (first ++ second) = (merger.offerAll first).offerAll second :=
  List.foldl_append

theorem settleAll_append (held first second : List Entity) :
    settleAll held (first ++ second) = settleAll (settleAll held first) second :=
  List.foldl_append

/-- A new name goes to the end, and none is ever moved or dropped. -/
theorem settle_names (offered : Entity) (held : List Entity) :
    (settle offered held).map (·.name) =
      if offered.name ∈ held.map (·.name) then held.map (·.name)
      else held.map (·.name) ++ [offered.name] := by
  split
  · rename_i member
    induction held with
    | nil => simp at member
    | cons first rest ih =>
      unfold settle
      split
      · rename_i same
        simp [prevail_name same, same]
      · rename_i different
        rw [List.map_cons, List.mem_cons] at member
        have later : offered.name ∈ rest.map (·.name) :=
          member.resolve_left fun same => different same.symm
        rw [List.map_cons, List.map_cons, ih later]
  · rename_i fresh
    simp [settle_fresh fresh]

theorem settleAll_names (held offers : List Entity) :
    (settleAll held offers).map (·.name) = held.map (·.name) ++
      (offers.map (·.name)).eraseDups.filter (fun name => !(held.map (·.name)).contains name) := by
  induction offers generalizing held with
  | nil => simp [settleAll]
  | cons offered rest ih =>
    have step : settleAll held (offered :: rest) = settleAll (settle offered held) rest := rfl
    rw [step, ih, settle_names, List.map_cons, List.eraseDups_cons, List.filter_cons,
      ← filter_eraseDups, ← filter_eraseDups, List.filter_filter]
    by_cases member : offered.name ∈ held.map (·.name)
    · rw [if_pos member, if_neg (by simpa using member)]
      congr 2
      apply List.filter_congr
      intro name _
      by_cases same : name = offered.name
      · subst same
        simpa using member
      · simp [same]
    · rw [if_neg member, if_pos (by simpa using member), List.append_assoc, List.singleton_append]
      congr 3
      apply List.filter_congr
      intro name _
      by_cases same : name = offered.name <;> simp [same]

theorem settleAll_nodup {held : List Entity} (distinct : (held.map (·.name)).Nodup)
    (offers : List Entity) : ((settleAll held offers).map (·.name)).Nodup := by
  rw [settleAll_names, List.nodup_append]
  refine ⟨distinct, (nodup_eraseDups _).filter _, ?_⟩
  intro name old other new same
  subst same
  simp only [List.mem_filter] at new
  simp [old] at new

/-- Offers under names that are all different and all new are simply appended. -/
theorem settleAll_fresh {held offers : List Entity}
    (distinct : ((held ++ offers).map (·.name)).Nodup) :
    settleAll held offers = held ++ offers := by
  induction offers generalizing held with
  | nil => simp [settleAll]
  | cons offered rest ih =>
    have fresh : offered.name ∉ held.map (·.name) := by
      intro member
      rw [List.map_append, List.nodup_append] at distinct
      exact distinct.2.2 _ member _ (by simp) rfl
    have step : settleAll held (offered :: rest) = settleAll (settle offered held) rest := rfl
    rw [step, settle_fresh fresh, ih (by simpa using distinct)]
    simp

/-- What becomes of the holder of a name when it is offered anew: the name passes on only for a higher
confidence. -/
def challenge (holder : Option Entity) (offered : Entity) : Option Entity :=
  match holder with
  | none => some offered
  | some held => some (prevail held offered)

theorem holder_settle (name : String) (offered : Entity) (held : List Entity) :
    holder? name (settle offered held) =
      if offered.name = name then challenge (holder? name held) offered
      else holder? name held := by
  induction held with
  | nil =>
    by_cases same : offered.name = name <;> simp [settle, holder?, challenge, same]
  | cons first rest ih =>
    unfold holder? at ih ⊢
    by_cases taken : first.name = offered.name
    · rw [settle, if_pos taken]
      by_cases same : offered.name = name
      · rw [if_pos same, List.find?_cons_of_pos (by simp [prevail_name taken, same]),
          List.find?_cons_of_pos (by simp [taken, same])]
        rfl
      · rw [if_neg same, List.find?_cons_of_neg (by simp [prevail_name taken, same]),
          List.find?_cons_of_neg (by simp [taken, same])]
    · rw [settle, if_neg taken]
      by_cases bears : first.name = name
      · have other : offered.name ≠ name := fun same => taken (bears.trans same.symm)
        rw [if_neg other, List.find?_cons_of_pos (by simp [bears]),
          List.find?_cons_of_pos (by simp [bears])]
      · rw [List.find?_cons_of_neg (by simp [bears]), List.find?_cons_of_neg (by simp [bears]), ih]

theorem holder_settleAll (name : String) (held offers : List Entity) :
    holder? name (settleAll held offers) =
      (offers.filter (·.name == name)).foldl challenge (holder? name held) := by
  induction offers generalizing held with
  | nil => rfl
  | cons offered rest ih =>
    have step : settleAll held (offered :: rest) = settleAll (settle offered held) rest := rfl
    rw [step, ih, holder_settle, List.filter_cons]
    by_cases same : offered.name = name <;> simp [same]

theorem holder_of_mem {held : List Entity} (distinct : (held.map (·.name)).Nodup)
    (member : entity ∈ held) : holder? entity.name held = some entity := by
  induction held with
  | nil => simp at member
  | cons first rest ih =>
    rw [List.map_cons, List.nodup_cons] at distinct
    unfold holder? at ih ⊢
    rcases List.mem_cons.mp member with same | later
    · subst same
      exact List.find?_cons_of_pos (by simp)
    · have different : first.name ≠ entity.name := fun same =>
        distinct.1 (same ▸ List.mem_map_of_mem later)
      rw [List.find?_cons_of_neg (by simp [different])]
      exact ih distinct.2 later

/-- A holder stays against offers that are no better. -/
private theorem foldl_challenge_of_tie {holder : Entity} {offers : List Entity}
    (tie : ∀ offered ∈ offers, ¬ holder.confidence < offered.confidence) :
    offers.foldl challenge (some holder) = some holder := by
  induction offers with
  | nil => rfl
  | cons offered rest ih =>
    have stays : challenge (some holder) offered = some holder := by
      rw [challenge, prevail, if_neg (tie offered (by simp))]
    rw [List.foldl_cons, stays, ih fun other member => tie other (by simp [member])]

/-- Of offers with one confidence, above that of all held entities, the first of a name prevails. -/
theorem holder_settleAll_of_stronger {held offers : List Entity} (low high : Float)
    (weak : ∀ entity ∈ held, entity.confidence = low)
    (strong : ∀ entity ∈ offers, entity.confidence = high)
    (above : low < high) (tie : ¬ high < high) (name : String) :
    holder? name (settleAll held offers) = (holder? name offers).or (holder? name held) := by
  have first_offer : holder? name offers = (offers.filter (·.name == name)).head? :=
    List.head?_filter.symm
  rw [holder_settleAll, first_offer]
  cases rivals : offers.filter (·.name == name) with
  | nil => rfl
  | cons first rest =>
    have equal : ∀ entity ∈ first :: rest, entity.confidence = high := by
      intro entity member
      rw [← rivals] at member
      exact strong entity (List.mem_of_mem_filter member)
    have taken : challenge (holder? name held) first = some first := by
      cases before : holder? name held with
      | none => rfl
      | some entity =>
        have member := List.mem_of_find?_eq_some before
        rw [challenge, prevail, weak entity member, equal first (by simp), if_pos above]
    rw [List.foldl_cons, taken, List.head?_cons, Option.some_or]
    apply foldl_challenge_of_tie
    intro offered member
    rwa [equal first (by simp), equal offered (by simp [member])]

end DevlogGraph.Merger
