import DevlogGraph.Proofs.Ledger.Written

/-! Which edges a series of write-backs leaves to be read. An edge is appended unless its pair is
mentioned. So a pair can be taken for recorded because of the line of another one, and then it is lost;
nothing else is lost, and nothing comes in that was not given. -/
namespace DevlogGraph.Ledger

open Text Pattern

/-- The content after write-backs, one after another. -/
def updates (content : String) (batches : List (List Relationship)) : String :=
  batches.foldl updated content

/-- What write-backs add below the lines that are there. -/
structure Extends (content : String) (kept : List Relationship) (batches : List (List Relationship))
    (added : List Relationship) : Prop where
  text : updates (written content kept) batches = written content (kept ++ added)
  given : ∀ edge ∈ added, edge ∈ batches.flatten
  unmentioned : ∀ edge ∈ added, ¬ PairMentioned (written content kept) edge.ends
  once : (added.map Relationship.ends).Nodup

theorem Extends.nil (content : String) (kept : List Relationship) : Extends content kept [] [] where
  text := by rw [List.append_nil]; rfl
  given := by simp
  unmentioned := by simp
  once := List.nodup_nil

theorem Extends.cons
    (later : Extends content (kept ++ missing (written content kept) edges) batches added) :
    Extends content kept (edges :: batches) (missing (written content kept) edges ++ added) := by
  have step := updated_written content kept edges
  constructor
  · rw [← List.append_assoc, ← later.text, ← step]
    rfl
  · intro edge member
    rw [List.flatten_cons, List.mem_append]
    exact (List.mem_append.mp member).imp ((missing_sublist _ edges).subset ·) (later.given edge ·)
  · intro edge member
    rcases List.mem_append.mp member with first | after
    · exact (mem_missing_ends_iff.mp (List.mem_map_of_mem first)).2
    · intro mentioned
      refine later.unmentioned edge after ?_
      rw [← step, updated_eq]
      exact mentioned.append _
  · rw [List.map_append, List.nodup_append]
    refine ⟨missing_ends_nodup _ edges, later.once, ?_⟩
    rintro _ first _ after rfl
    obtain ⟨edge, member, ends⟩ := List.mem_map.mp after
    obtain ⟨asked, _⟩ := mem_missing_ends_iff.mp first
    obtain ⟨other, other_asked, same⟩ := List.mem_map.mp asked
    refine later.unmentioned edge member ?_
    rw [ends, ← same, ← step]
    exact pairMentioned_updated _ other_asked

private theorem exists_extends (content : String) (kept : List Relationship)
    (batches : List (List Relationship)) : ∃ added, Extends content kept batches added := by
  induction batches generalizing kept with
  | nil => exact ⟨[], .nil content kept⟩
  | cons edges later ih =>
    obtain ⟨added, extended⟩ := ih (kept ++ missing (written content kept) edges)
    exact ⟨_, extended.cons⟩

/-- The pairs that are read from a text. -/
def pairsRead (content : String) : List (String × String) :=
  (relationships content).map Relationship.ends

/-- The pairs that are given to a series of write-backs. -/
def pairsGiven (batches : List (List Relationship)) : List (String × String) :=
  batches.flatten.map Relationship.ends

/-- What a series of write-backs leaves to be read. -/
structure Recorded (content : String) (batches : List (List Relationship)) : Prop where
  given : relationships (updates content batches) ⊆ batches.flatten
  once : (pairsRead (updates content batches)).Nodup
  /-- The write-back that brings a pair first decides whether it is lost. -/
  kept_iff : ∀ before edges later pair, batches = before ++ edges :: later →
    pair ∈ edges.map Relationship.ends → pair ∉ pairsGiven before →
    (pair ∈ pairsRead (updates content batches) ↔
      ¬ Overshadowed content (relationships (updates content before)) pair)
  /-- If every line mentions its own pair alone, all pairs are kept, whatever the batches. -/
  complete : (∀ pair ∈ pairsGiven batches, ∀ edge ∈ batches.flatten,
      PairMentioned (preamble ++ line edge) pair → pair = edge.ends) →
    ∀ pair, pair ∈ pairsRead (updates content batches) ↔ pair ∈ pairsGiven batches

theorem Extends.found (extended : Extends content [] batches added) :
    updates content batches = written content added := by
  have text := extended.text
  rwa [written_nil, List.nil_append] at text

theorem Extends.relationships (extended : Extends content [] batches added)
    (arrowless : Arrowless content.toList) (plain : ∀ edge ∈ batches.flatten, Plain edge) :
    relationships (updates content batches) = added := by
  rw [extended.found]
  exact relationships_written arrowless fun edge member => plain edge (extended.given edge member)

section Run

variable {content : String} {before : List (List Relationship)} {edges : List Relationship}
  {later : List (List Relationship)} (arrowless : Arrowless content.toList)
include arrowless

/-- What is read of the pairs that a write-back brings first is what it finds missing. -/
theorem mem_pairsRead_iff (plain : ∀ edge ∈ (before ++ edges :: later).flatten, Plain edge)
    (asked : pair ∈ edges.map Relationship.ends) (new : pair ∉ pairsGiven before) :
    pair ∈ pairsRead (updates content (before ++ edges :: later)) ↔
      ¬ PairMentioned (updates content before) pair := by
  obtain ⟨kept, earlier⟩ := exists_extends content [] before
  obtain ⟨added, after⟩ := exists_extends content
    (kept ++ missing (written content kept) edges) later
  have text : updates content (before ++ edges :: later) =
      written content (kept ++ (missing (written content kept) edges ++ added)) := by
    rw [← after.cons.text, updates, List.foldl_append]
    exact congrArg (updates · (edges :: later)) earlier.found
  have given : ∀ edge ∈ kept ++ (missing (written content kept) edges ++ added), Plain edge := by
    intro edge member
    refine plain edge ?_
    rw [List.flatten_append, List.mem_append]
    exact (List.mem_append.mp member).imp (earlier.given edge ·) (after.cons.given edge ·)
  have not_earlier : pair ∉ kept.map Relationship.ends := by
    intro member
    obtain ⟨edge, inside, rfl⟩ := List.mem_map.mp member
    exact new (List.mem_map_of_mem (earlier.given edge inside))
  have not_after : pair ∉ added.map Relationship.ends := by
    intro member
    obtain ⟨edge, inside, rfl⟩ := List.mem_map.mp member
    obtain ⟨other, other_asked, same⟩ := List.mem_map.mp asked
    refine after.unmentioned edge inside ?_
    rw [← same, ← updated_written]
    exact pairMentioned_updated _ other_asked
  rw [pairsRead, text, relationships_written arrowless given, earlier.found]
  simp only [List.map_append, List.mem_append, not_earlier, not_after, false_or, or_false]
  rw [mem_missing_ends_iff]
  exact and_iff_right asked

private theorem mem_pairsRead_iff_not_overshadowed
    (plain : ∀ edge ∈ (before ++ edges :: later).flatten, Plain edge)
    (asked : pair ∈ edges.map Relationship.ends) (new : pair ∉ pairsGiven before) :
    pair ∈ pairsRead (updates content (before ++ edges :: later)) ↔
      ¬ Overshadowed content (relationships (updates content before)) pair := by
  obtain ⟨kept, earlier⟩ := exists_extends content [] before
  have plain_before : ∀ edge ∈ before.flatten, Plain edge := fun edge member =>
    plain edge (by simp [member])
  have plain_kept : ∀ edge ∈ kept, Plain edge := fun edge member =>
    plain_before edge (earlier.given edge member)
  obtain ⟨edge, member, rfl⟩ := List.mem_map.mp asked
  have edge_plain : Plain edge := plain edge (by simp [member])
  rw [mem_pairsRead_iff arrowless plain asked new, earlier.relationships arrowless plain_before,
    earlier.found, pairMentioned_written_iff arrowless plain_kept edge_plain.source.one_line
      edge_plain.target.one_line]

/-- What overshadows a pair is an edge that was given before. -/
private theorem exists_given_of_overshadowed (plain : ∀ edge ∈ before.flatten, Plain edge)
    {pair : String × String}
    (overshadowed : Overshadowed content (relationships (updates content before)) pair) :
    ∃ edge ∈ before.flatten, PairMentioned (preamble ++ line edge) pair := by
  obtain ⟨kept, earlier⟩ := exists_extends content [] before
  rw [earlier.relationships arrowless plain] at overshadowed
  rcases overshadowed with ⟨edge, member, hidden⟩ | ⟨_, first, head, mentioned⟩
  · have given := earlier.given edge member
    exact ⟨edge, given, (plain edge given).block_mentions hidden⟩
  · exact ⟨first, earlier.given first (List.mem_of_mem_head? head), mentioned⟩

end Run

private theorem exists_first {batches : List (List Relationship)}
    (given : pair ∈ pairsGiven batches) :
    ∃ before edges later, batches = before ++ edges :: later ∧
      pair ∈ edges.map Relationship.ends ∧ pair ∉ pairsGiven before := by
  induction batches with
  | nil => cases given
  | cons first rest ih =>
    by_cases here : pair ∈ first.map Relationship.ends
    · exact ⟨[], first, rest, rfl, here, by simp [pairsGiven]⟩
    · have there : pair ∈ pairsGiven rest := by
        rw [pairsGiven, List.flatten_cons, List.map_append, List.mem_append] at given
        exact given.resolve_left here
      obtain ⟨before, edges, later, rfl, asked, new⟩ := ih there
      refine ⟨first :: before, edges, later, rfl, asked, ?_⟩
      rw [pairsGiven, List.flatten_cons, List.map_append, List.mem_append]
      exact not_or.mpr ⟨here, new⟩

/-- What is read after write-backs was given, once a pair; a pair is lost exactly if the lines that
were there when it first came overshadow it. -/
theorem updates_recorded (arrowless : Arrowless content.toList)
    (plain : ∀ edge ∈ batches.flatten, Plain edge) : Recorded content batches := by
  obtain ⟨added, extended⟩ := exists_extends content [] batches
  have read := extended.relationships arrowless plain
  have given : relationships (updates content batches) ⊆ batches.flatten := by
    rw [read]
    exact fun edge member => extended.given edge member
  refine ⟨given, ?_, ?_, ?_⟩
  · rw [pairsRead, read]
    exact extended.once
  · rintro before edges later pair rfl asked new
    exact mem_pairsRead_iff_not_overshadowed arrowless plain asked new
  · intro own pair
    refine ⟨fun member => List.map_subset _ given member, fun member => ?_⟩
    obtain ⟨before, edges, later, rfl, asked, new⟩ := exists_first member
    rw [mem_pairsRead_iff_not_overshadowed arrowless plain asked new]
    intro overshadowed
    obtain ⟨edge, edge_given, mentioned⟩ := exists_given_of_overshadowed arrowless
      (fun edge member => plain edge (by simp [member])) overshadowed
    have known : edge ∈ (before ++ edges :: later).flatten := by simp [edge_given]
    rw [own pair member edge known mentioned] at new
    exact new (List.mem_map_of_mem edge_given)

/-- The longer name comes second here: both pairs are kept. -/
theorem updates_recorded_longer_name_later :
    let shorter : Relationship := ⟨"gateway", "db", "uses"⟩
    let longer : Relationship := ⟨"api-gateway", "db", "uses"⟩
    let batches := [[shorter], [longer]]
    Arrowless "Notes".toList ∧ (∀ edge ∈ batches.flatten, Plain edge) ∧
    Recorded "Notes" batches ∧ ¬ Overshadowed "Notes" [shorter] longer.ends ∧
    pairsRead (updates "Notes" batches) = [shorter.ends, longer.ends] := by
  intro shorter longer batches
  have arrowless : Arrowless "Notes".toList := by decide +kernel
  have plain : ∀ edge ∈ batches.flatten, Plain edge := by decide +kernel
  have recorded : Recorded "Notes" batches := updates_recorded arrowless plain
  have read : pairsRead (updates "Notes" batches) = [shorter.ends, longer.ends] := by decide +kernel
  have before : relationships (updates "Notes" [[shorter]]) = [shorter] := by decide +kernel
  refine ⟨arrowless, plain, recorded, ?_, read⟩
  rw [← before]
  refine (recorded.kept_iff [[shorter]] [longer] [] longer.ends rfl (by decide) (by decide)).mp ?_
  rw [read]
  exact List.mem_cons_of_mem _ List.mem_cons_self

/-- The longer name comes first here, and the pair of the shorter one is taken for recorded. -/
theorem pair_lost_inside_longer_name : ¬ ∀ (content : String) (batches : List (List Relationship)),
    Arrowless content.toList → (∀ edge ∈ batches.flatten, Plain edge) →
    ∀ pair, pair ∈ pairsRead (updates content batches) ↔ pair ∈ pairsGiven batches := by
  intro kept
  have lost := kept "" [[⟨"api-gateway", "db", "uses"⟩], [⟨"gateway", "db", "uses"⟩]]
    (by decide +kernel) (by decide +kernel) ("gateway", "db")
  revert lost
  decide +kernel

end DevlogGraph.Ledger
