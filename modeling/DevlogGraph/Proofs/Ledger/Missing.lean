import Mathlib.Data.List.Sort
import DevlogGraph.Proofs.Ledger.Mention

/-! Which edges a write-back appends: of each pair of ends the first edge, unless the content
mentions the pair. -/
namespace DevlogGraph.Ledger

theorem distinct_sublist (edges : List Relationship) : (distinct edges).Sublist edges := by
  induction edges with
  | nil => exact List.Sublist.refl _
  | cons edge rest ih => exact (List.filter_sublist.trans ih).cons_cons edge

theorem missing_sublist (content : String) (edges : List Relationship) :
    (missing content edges).Sublist edges :=
  List.filter_sublist.trans (distinct_sublist edges)

theorem distinct_ends_nodup (edges : List Relationship) :
    ((distinct edges).map Relationship.ends).Nodup := by
  induction edges with
  | nil => exact List.nodup_nil
  | cons edge rest ih =>
    rw [distinct, List.map_cons, List.nodup_cons]
    refine ⟨?_, ih.sublist (List.filter_sublist.map _)⟩
    intro again
    obtain ⟨other, member, same⟩ := List.mem_map.mp again
    have different := (List.mem_filter.mp member).2
    simp [same] at different

theorem missing_ends_nodup (content : String) (edges : List Relationship) :
    ((missing content edges).map Relationship.ends).Nodup :=
  (distinct_ends_nodup edges).sublist (List.filter_sublist.map _)

/-- An edge is kept if no edge before it joins the same ends. -/
theorem mem_distinct_iff : edge ∈ distinct edges ↔
    ∃ before after, edges = before ++ edge :: after ∧ ∀ other ∈ before, other.ends ≠ edge.ends := by
  induction edges with
  | nil => simp [distinct]
  | cons first rest ih =>
    rw [distinct, List.mem_cons, List.mem_filter, ih]
    constructor
    · rintro (rfl | ⟨⟨before, after, rfl, earlier⟩, different⟩)
      · exact ⟨[], rest, rfl, by simp⟩
      · refine ⟨first :: before, after, rfl, ?_⟩
        intro other member
        rcases List.mem_cons.mp member with rfl | later
        · intro same
          simp [same] at different
        · exact earlier other later
    · rintro ⟨before, after, cut, earlier⟩
      cases before with
      | nil =>
        rw [List.nil_append, List.cons.injEq] at cut
        exact .inl cut.1.symm
      | cons head others =>
        rw [List.cons_append, List.cons.injEq] at cut
        obtain ⟨rfl, rfl⟩ := cut
        have different := earlier first (by simp)
        refine .inr ⟨⟨others, after, rfl, fun other member => earlier other (by simp [member])⟩, ?_⟩
        simpa [bne_iff_ne] using fun same => different same.symm

theorem mem_missing_iff : edge ∈ missing content edges ↔
    mentionsEdge content edge = false ∧
      ∃ before after, edges = before ++ edge :: after ∧
        ∀ other ∈ before, other.ends ≠ edge.ends := by
  rw [missing, List.mem_filter, mem_distinct_iff, and_comm, Bool.not_eq_true']

/-- Of each pair of ends the first edge, in the order in which they come, unless the content mentions
the pair. -/
structure Firsts (content : String) (edges kept : List Relationship) : Prop where
  sublist : kept.Sublist edges
  ends_nodup : (kept.map Relationship.ends).Nodup
  mem_iff : ∀ edge, edge ∈ kept ↔
    ¬ Mentioned content.toList edge.source.toList edge.target.toList ∧
      ∃ before after, edges = before ++ edge :: after ∧
        ∀ other ∈ before, other.ends ≠ edge.ends
  ordered : kept.Pairwise fun edge later => edges.idxOf edge < edges.idxOf later

private theorem distinct_ordered (edges : List Relationship) :
    (distinct edges).Pairwise fun edge later => edges.idxOf edge < edges.idxOf later := by
  induction edges with
  | nil => exact .nil
  | cons first rest ih =>
    have beyond (other : Relationship)
        (member : other ∈ (distinct rest).filter fun other => other.ends != first.ends) :
        (first :: rest).idxOf other = rest.idxOf other + 1 := by
      have different := (List.mem_filter.mp member).2
      apply List.idxOf_cons_ne
      rintro rfl
      simp at different
    rw [distinct, List.pairwise_cons]
    constructor
    · intro later member
      rw [List.idxOf_cons_self, beyond later member]
      exact Nat.succ_pos _
    · refine (ih.filter _).imp_of_mem fun early late less => ?_
      rw [beyond _ early, beyond _ late]
      exact Nat.succ_lt_succ less

theorem missing_firsts (content : String) (edges : List Relationship) :
    Firsts content edges (missing content edges) where
  sublist := missing_sublist content edges
  ends_nodup := missing_ends_nodup content edges
  mem_iff := by
    intro edge
    rw [mem_missing_iff, ← mentionsEdge_iff, Bool.not_eq_true]
  ordered := (distinct_ordered edges).filter _

/-- There is one such list. -/
theorem Firsts.unique (first : Firsts content edges kept) (second : Firsts content edges other) :
    kept = other := by
  have : Std.Irrefl fun edge later => edges.idxOf edge < edges.idxOf later :=
    ⟨fun _ => Nat.lt_irrefl _⟩
  have : Std.Antisymm fun edge later => edges.idxOf edge < edges.idxOf later :=
    ⟨fun _ _ less more => absurd (Nat.lt_trans less more) (Nat.lt_irrefl _)⟩
  refine first.ordered.eq_of_mem_iff second.ordered fun edge => ?_
  rw [first.mem_iff, second.mem_iff]

theorem render_eq_none_iff : render content edges = none ↔ missing content edges = [] := by
  unfold render
  cases missing content edges <;> simp

/-- What is rendered when something is missing. -/
theorem render_eq_some_iff : render content edges = some out ↔
    missing content edges ≠ [] ∧
      out = content ++ separator content.toList ++ linesText (missing content edges) := by
  unfold render
  cases missing content edges with
  | nil => simp
  | cons edge rest => simp [eq_comm]

end DevlogGraph.Ledger
