import Mathlib.Data.Finset.Card
import DevlogGraph.Proofs.Ledger.Mention
import DevlogGraph.Proofs.Ledger.Missing
import DevlogGraph.Proofs.Ledger.RoundTrip

/-! One write-back into a text: how many pairs it adds, that it mentions all of them afterwards, and
where it puts the header. -/
namespace DevlogGraph.Ledger

open Text Pattern

instance (content source target : List Char) : Decidable (Mentioned content source target) :=
  decidable_of_iff _ mentions_iff

/-- The content mentions the two names as an edge. -/
def PairMentioned (content : String) (pair : String × String) : Prop :=
  Mentioned content.toList pair.1.toList pair.2.toList

instance (content : String) (pair : String × String) : Decidable (PairMentioned content pair) :=
  inferInstanceAs (Decidable (Mentioned _ _ _))

private theorem pairMentioned_ends :
    PairMentioned content edge.ends ↔ mentionsEdge content edge = true :=
  mentionsEdge_iff.symm

/-- Of the edges with the same ends one is kept. -/
private theorem exists_distinct (member : edge ∈ edges) :
    ∃ first ∈ distinct edges, first.ends = edge.ends := by
  induction edges with
  | nil => cases member
  | cons head rest ih =>
    by_cases same : head.ends = edge.ends
    · exact ⟨head, List.mem_cons_self, same⟩
    · have later : edge ∈ rest := by
        rcases List.mem_cons.mp member with rfl | later
        · exact absurd rfl same
        · exact later
      obtain ⟨first, kept, equal⟩ := ih later
      refine ⟨first, List.mem_cons_of_mem _ (List.mem_filter.mpr ⟨kept, ?_⟩), equal⟩
      rw [equal]
      exact bne_iff_ne.mpr fun reverse => same reverse.symm

/-- A pair is appended if it was asked for and is not mentioned. -/
theorem mem_missing_ends_iff : pair ∈ (missing content edges).map Relationship.ends ↔
    pair ∈ edges.map Relationship.ends ∧ ¬ PairMentioned content pair := by
  constructor
  · intro member
    obtain ⟨edge, kept, rfl⟩ := List.mem_map.mp member
    refine ⟨List.mem_map_of_mem ((missing_sublist content edges).subset kept), ?_⟩
    rw [pairMentioned_ends, (mem_missing_iff.mp kept).1]
    exact Bool.false_ne_true
  · rintro ⟨member, unmentioned⟩
    obtain ⟨edge, asked, rfl⟩ := List.mem_map.mp member
    obtain ⟨first, kept, same⟩ := exists_distinct asked
    rw [← same, pairMentioned_ends] at unmentioned
    rw [← same]
    exact List.mem_map_of_mem (List.mem_filter.mpr ⟨kept, by simpa using unmentioned⟩)

theorem length_missing (content : String) (edges : List Relationship) :
    (missing content edges).length =
      ((edges.map Relationship.ends).toFinset.filter (¬ PairMentioned content ·)).card := by
  have pairs : (edges.map Relationship.ends).toFinset.filter (¬ PairMentioned content ·) =
      ((missing content edges).map Relationship.ends).toFinset := by
    ext pair
    rw [Finset.mem_filter, List.mem_toFinset, List.mem_toFinset, mem_missing_ends_iff]
  rw [pairs, List.toFinset_card_of_nodup (missing_ends_nodup content edges), List.length_map]

theorem missing_eq_nil_iff : missing content edges = [] ↔
    ∀ edge ∈ edges, PairMentioned content edge.ends := by
  constructor
  · intro none_missing edge member
    by_contra unmentioned
    have kept := mem_missing_ends_iff.mpr ⟨List.mem_map_of_mem member, unmentioned⟩
    rw [none_missing] at kept
    cases kept
  · intro mentioned
    rw [List.eq_nil_iff_forall_not_mem]
    intro edge kept
    exact (mem_missing_ends_iff.mp (List.mem_map_of_mem kept)).2
      (mentioned edge ((missing_sublist content edges).subset kept))

/-- What a write-back appends to the content. -/
def addition (content : String) (edges : List Relationship) : String :=
  if missing content edges = [] then ""
  else separator content.toList ++ linesText (missing content edges)

/-- The content after a write-back. -/
def updated (content : String) (edges : List Relationship) : String :=
  (render content edges).getD content

theorem updated_eq (content : String) (edges : List Relationship) :
    updated content edges = content ++ addition content edges := by
  unfold updated addition
  by_cases none_missing : missing content edges = []
  · rw [render_eq_none_iff.mpr none_missing, if_pos none_missing, String.append_empty]
    rfl
  · rw [render_eq_some_iff.mpr ⟨none_missing, rfl⟩, if_neg none_missing, String.append_assoc]
    rfl

theorem PairMentioned.append (mentioned : PairMentioned content pair) (more : String) :
    PairMentioned (content ++ more) pair := by
  unfold PairMentioned at mentioned ⊢
  rw [String.toList_append]
  exact mentioned.around [] more.toList

/-- Afterwards every pair that was asked for is mentioned. -/
theorem pairMentioned_updated (content : String) (member : edge ∈ edges) :
    PairMentioned (updated content edges) edge.ends := by
  rw [updated_eq]
  by_cases before : PairMentioned content edge.ends
  · exact before.append _
  · have kept := mem_missing_ends_iff.mpr ⟨List.mem_map_of_mem member, before⟩
    obtain ⟨first, first_kept, same⟩ := List.mem_map.mp kept
    have some_missing : missing content edges ≠ [] := List.ne_nil_of_mem first_kept
    rw [addition, if_neg some_missing, ← String.append_assoc, ← same, pairMentioned_ends]
    exact mentionsEdge_linesText first_kept _

private theorem linesText_toList (first : Relationship) (rest : List Relationship) :
    ∃ later, (linesText (first :: rest)).toList = '-' :: later := by
  have cut : linesText (first :: rest) = line first ++ "\n" ++ linesText rest := by
    simp [linesText, String.join_cons]
  exact ⟨_, by rw [cut, String.toList_append, String.toList_append, line_toList]; rfl⟩

private theorem addition_ne_empty (some_missing : missing content edges ≠ []) :
    addition content edges ≠ "" := by
  rw [addition, if_neg some_missing]
  obtain ⟨first, rest, split⟩ := List.exists_cons_of_ne_nil some_missing
  obtain ⟨later, starts⟩ := linesText_toList first rest
  intro empty
  have nothing := congrArg String.toList empty
  simp [split, starts] at nothing

theorem updated_eq_self_iff : updated content edges = content ↔ missing content edges = [] := by
  rw [updated_eq]
  constructor
  · intro same
    by_contra some_missing
    apply addition_ne_empty some_missing
    simpa using same
  · intro none_missing
    rw [addition, if_pos none_missing, String.append_empty]

/-- Nothing but line feeds. -/
def Feeds (text : String) : Prop := ∀ c ∈ text.toList, c = '\n'

/-- The beginning of a text, or the place behind an empty line. -/
def AfterEmptyLine (text : String) : Prop := text = "" ∨ ∃ front, text = front ++ "\n\n"

theorem endsWith_feed {content : String} (ends : endsWith ['\n'] content.toList = true) :
    ∃ front, content = front ++ "\n" := by
  obtain ⟨front, split⟩ := List.isSuffixOf_iff_suffix.mp ends
  exact ⟨String.ofList front, String.toList_injective (by simp [split])⟩

/-- A separator either holds the header, behind an empty line, or is a line feed at most. -/
theorem separator_shape (content : String) :
    (holds header.toList content.toList = true ∧ Feeds (separator content.toList)) ∨
      (holds header.toList content.toList = false ∧ ∃ gap, Feeds gap ∧
        separator content.toList = gap ++ preamble ∧ AfterEmptyLine (content ++ gap)) := by
  have none_fed : Feeds "" := by simp [Feeds]
  have one_fed : Feeds "\n" := by simp [Feeds]
  have two_fed : Feeds "\n\n" := by simp [Feeds]
  have assembled (gap : String) :
      gap ++ header ++ "\n" ++ formatHint ++ "\n" = gap ++ preamble := by
    simp [preamble, String.append_assoc]
  unfold separator
  cases known : holds header.toList content.toList with
  | true =>
    refine .inl ⟨rfl, ?_⟩
    rw [if_pos rfl]
    split
    · exact none_fed
    · exact one_fed
  | false =>
    refine .inr ⟨rfl, ?_⟩
    simp only [assembled, Bool.false_eq_true, if_false]
    by_cases empty : content.toList.isEmpty = true
    · refine ⟨"", none_fed, by rw [if_pos empty], .inl ?_⟩
      simpa using empty
    · rw [if_neg empty]
      by_cases gapped : endsWith ['\n', '\n'] content.toList = true
      · refine ⟨"", none_fed, by rw [if_pos gapped], .inr ?_⟩
        obtain ⟨front, split⟩ := List.isSuffixOf_iff_suffix.mp gapped
        exact ⟨String.ofList front, String.toList_injective (by simp [split])⟩
      · rw [if_neg gapped]
        by_cases ended : endsWith ['\n'] content.toList = true
        · obtain ⟨front, rfl⟩ := endsWith_feed ended
          exact ⟨"\n", one_fed, by rw [if_pos ended], .inr ⟨front, by simp [String.append_assoc]⟩⟩
        · exact ⟨"\n\n", two_fed, by rw [if_neg ended], .inr ⟨content, rfl⟩⟩

/-- A text that starts with a visible character cannot be cut in two ways behind line feeds. -/
private theorem feeds_unique {gap other text more : String} (fed : Feeds gap)
    (other_fed : Feeds other)
    (visible : text.toList = c :: rest) (other_visible : more.toList = d :: later) (dark : c ≠ '\n')
    (other_dark : d ≠ '\n') (same : gap ++ text = other ++ more) : gap = other ∧ text = more := by
  have lists : gap.toList ++ c :: rest = other.toList ++ d :: later := by
    rw [← visible, ← other_visible, ← String.toList_append, ← String.toList_append, same]
  have keep {front : List Char} (all : ∀ e ∈ front, e = '\n') {e : Char} (stop : e ≠ '\n')
      (tail : List Char) : (front ++ e :: tail).takeWhile (· == '\n') = front := by
    rw [List.takeWhile_append_of_pos (by simpa using all), List.takeWhile_cons_of_neg (by simpa using stop),
      List.append_nil]
  have gaps : gap.toList = other.toList := by
    rw [← keep fed dark rest, lists, keep other_fed other_dark later]
  rw [gaps, List.append_cancel_left_eq] at lists
  exact ⟨String.toList_injective gaps,
    String.toList_injective (visible.trans (lists.trans other_visible.symm))⟩

theorem preamble_titled (rest : String) : ∃ later, (preamble ++ rest).toList = '#' :: later := by
  have title : header.toList = '#' :: "## Architectural Relationships".toList := rfl
  simp only [preamble, String.toList_append, title, List.cons_append]
  exact ⟨_, rfl⟩

/-- Behind line feeds, the header is appended exactly to content without it to which something is
appended at all, and its place is behind an empty line. -/
theorem addition_header_iff : (∃ gap rest, Feeds gap ∧
      addition content edges = gap ++ (preamble ++ rest)) ↔
    holds header.toList content.toList = false ∧ missing content edges ≠ [] := by
  constructor
  · rintro ⟨gap, rest, fed, same⟩
    by_cases none_missing : missing content edges = []
    · rw [addition, if_pos none_missing] at same
      obtain ⟨title, starts⟩ := preamble_titled rest
      have nothing := congrArg String.toList same
      rw [String.toList_append, starts] at nothing
      simp at nothing
    · refine ⟨?_, none_missing⟩
      rcases separator_shape content with ⟨_, separator_fed⟩ | ⟨unknown, _⟩
      · rw [addition, if_neg none_missing] at same
        obtain ⟨first, others, split⟩ := List.exists_cons_of_ne_nil none_missing
        obtain ⟨later, dash⟩ := linesText_toList first others
        obtain ⟨title, starts⟩ := preamble_titled rest
        rw [split] at same
        obtain ⟨_, texts⟩ := feeds_unique separator_fed fed dash starts (by decide) (by decide) same
        rw [texts, starts] at dash
        cases dash
      · exact unknown
  · rintro ⟨unknown, some_missing⟩
    rcases separator_shape content with ⟨known, _⟩ | ⟨_, gap, fed, split, _⟩
    · rw [unknown] at known
      cases known
    · refine ⟨gap, linesText (missing content edges), fed, ?_⟩
      rw [addition, if_neg some_missing, split, String.append_assoc]

theorem afterEmptyLine_of_header (fed : Feeds gap)
    (same : addition content edges = gap ++ (preamble ++ rest)) : AfterEmptyLine (content ++ gap) := by
  obtain ⟨unknown, some_missing⟩ := addition_header_iff.mp ⟨gap, rest, fed, same⟩
  rcases separator_shape content with ⟨known, _⟩ | ⟨_, other, other_fed, split, placed⟩
  · rw [unknown] at known
    cases known
  · rw [addition, if_neg some_missing, split, String.append_assoc] at same
    obtain ⟨_, starts⟩ := preamble_titled (linesText (missing content edges))
    obtain ⟨_, other_starts⟩ := preamble_titled rest
    obtain ⟨gaps, _⟩ := feeds_unique other_fed fed starts other_starts (by decide) (by decide) same
    rwa [← gaps]

theorem holds_header_of_addition (same : addition content edges = gap ++ (preamble ++ rest)) :
    holds header.toList (updated content edges).toList = true := by
  rw [updated_eq, same]
  refine holds_iff.mpr ⟨(content ++ gap).toList, ("\n" ++ formatHint ++ "\n" ++ rest).toList, ?_⟩
  simp [preamble, ← String.toList_append, String.append_assoc]

end DevlogGraph.Ledger
