import DevlogGraph.Proofs.Ledger.Overlap

/-! A content without arrows and the lines that write-backs have put below it: what is read of them, and
which pairs they mention. A pair is mentioned wherever its text stands, also across two longer names. -/
namespace DevlogGraph.Ledger

open Text Pattern

/-- A field without any mark of a relationship line. -/
structure Bare (text : String) : Prop where
  named : text ≠ ""
  one_line : '\n' ∉ text.toList
  arrowless : Arrowless text.toList
  no_open : '(' ∉ text.toList
  no_close : ')' ∉ text.toList

instance (text : String) : Decidable (Bare text) :=
  decidable_of_iff (text ≠ "" ∧ '\n' ∉ text.toList ∧ Arrowless text.toList ∧ '(' ∉ text.toList ∧
      ')' ∉ text.toList)
    ⟨fun ⟨named, line, arrow, left, right⟩ => ⟨named, line, arrow, left, right⟩,
      fun bare => ⟨bare.named, bare.one_line, bare.arrowless, bare.no_open, bare.no_close⟩⟩

/-- An edge as it is written down without ambiguity. -/
structure Plain (edge : Relationship) : Prop where
  source_normal : normalName edge.source = edge.source
  target_normal : normalName edge.target = edge.target
  kind_trimmed : trim edge.kind.toList = edge.kind.toList
  source : Bare edge.source
  target : Bare edge.target
  kind : Bare edge.kind

instance (edge : Relationship) : Decidable (Plain edge) :=
  decidable_of_iff (normalName edge.source = edge.source ∧ normalName edge.target = edge.target ∧
      trim edge.kind.toList = edge.kind.toList ∧ Bare edge.source ∧ Bare edge.target ∧ Bare edge.kind)
    ⟨fun ⟨source_normal, target_normal, trimmed, source, target, kind⟩ =>
        ⟨source_normal, target_normal, trimmed, source, target, kind⟩,
      fun plain => ⟨plain.source_normal, plain.target_normal, plain.kind_trimmed, plain.source,
        plain.target, plain.kind⟩⟩

theorem Plain.legible (plain : Plain edge) : Legible edge := by
  refine ⟨⟨plain.source.named, plain.target.named,
    ⟨plain.kind.named, plain.kind_trimmed, plain.kind.no_close⟩, ?_, ?_⟩,
    ⟨plain.source.one_line, plain.target.one_line, plain.kind.one_line⟩⟩
  · rintro ⟨before, blank, after, cut, _⟩
    exact arrowless_iff.mp plain.source.arrowless (before ++ [blank]) after (by simp [cut])
  · rintro ⟨before, blank, after, cut, _⟩
    exact plain.target.no_open (by simp [cut])

theorem Plain.pairMentioned_line_iff (plain : Plain edge) :
    PairMentioned (line edge) pair ↔ Hidden pair edge :=
  Ledger.pairMentioned_line_iff plain.source.arrowless plain.target.arrowless plain.kind.arrowless

/-- Without an arrow there is nothing to read. -/
private theorem relationshipOfLine_of_arrowless (arrowless : Arrowless text) :
    relationshipOfLine text = none := by
  cases read : relationshipOfLine text with
  | none => rfl
  | some edge =>
    obtain ⟨source, target, written, stated⟩ := relationshipOfLine_sound read
    obtain ⟨item, rest, found, arrow, _⟩ := stated.splits
    obtain ⟨blanks, gap, _, _, _, rfl, _⟩ := itemText_eq_some_iff.mp found
    rw [splitArrow_eq] at arrow
    obtain ⟨after, rfl, _, reads⟩ := splitFirst_sound arrow
    obtain ⟨spaces, others, _, _, _, _, rfl, _⟩ := arrowTarget_eq_some_iff.mp reads
    exact absurd (by simp) (arrowless_iff.mp arrowless
      (blanks ++ '-' :: (gap ++ (source ++ spaces))) (others ++ rest))

private theorem relationships_of_arrowless {content : String}
    (arrowless : Arrowless content.toList) :
    relationships content = [] := by
  rw [relationships_eq, List.filterMap_eq_nil_iff]
  intro piece member
  exact relationshipOfLine_of_arrowless (arrowless.of_inside (infix_of_mem_pieces member))

/-- The content with lines below it. -/
def written (content : String) (kept : List Relationship) : String :=
  if kept = [] then content else content ++ separator content.toList ++ linesText kept

theorem written_nil (content : String) : written content [] = content := if_pos rfl

private theorem written_of_ne_nil (some_kept : kept ≠ []) :
    written content kept = content ++ separator content.toList ++ linesText kept := if_neg some_kept

theorem relationships_written (arrowless : Arrowless content.toList)
    (plain : ∀ edge ∈ kept, Plain edge) : relationships (written content kept) = kept := by
  by_cases none_kept : kept = []
  · rw [none_kept, written_nil, relationships_of_arrowless arrowless]
  · rw [written_of_ne_nil none_kept, relationships_separator, relationships_of_arrowless arrowless,
      List.nil_append]
    exact (relationships_linesText_iff fun edge member =>
      ⟨(plain edge member).source_normal, (plain edge member).target_normal⟩).mpr
      fun edge member => (plain edge member).legible

private theorem linesText_append (edges others : List Relationship) :
    linesText (edges ++ others) = linesText edges ++ linesText others := by
  induction edges with
  | nil => exact String.empty_append.symm
  | cons edge rest ih => rw [List.cons_append, linesText_cons, linesText_cons, ih, ← String.append_assoc]

private theorem linesText_ends (some_edges : edges ≠ []) :
    ∃ front, linesText edges = front ++ "\n" := by
  obtain rfl | ⟨front, last, rfl⟩ := List.eq_nil_or_concat edges
  · exact absurd rfl some_edges
  · refine ⟨linesText front ++ line last, ?_⟩
    rw [List.concat_eq_append, linesText_append, linesText_cons]
    simp [linesText, String.append_assoc]

/-- With the header known, a text that ends in a line feed needs nothing before new lines. -/
private theorem separator_of_known (known : holds header.toList content.toList = true)
    (ended : content = front ++ "\n") : separator content.toList = "" := by
  have ends : endsWith ['\n'] content.toList = true :=
    List.isSuffixOf_iff_suffix.mpr ⟨front.toList, by simp [ended]⟩
  rw [separator, if_pos known, if_pos ends]

private theorem separator_feed_of_known (known : holds header.toList content.toList = true) :
    ∃ front, content ++ separator content.toList = front ++ "\n" := by
  rw [separator, if_pos known]
  split
  · rename_i ended
    obtain ⟨front, cut⟩ := endsWith_feed ended
    exact ⟨front, by rw [String.append_empty, cut]⟩
  · exact ⟨content, rfl⟩

private theorem holds_header_written (content : String) (some_kept : kept ≠ []) :
    holds header.toList (written content kept).toList = true := by
  rw [written_of_ne_nil some_kept, String.toList_append]
  apply holds_append
  rcases separator_shape content with ⟨known, _⟩ | ⟨_, gap, _, split, _⟩
  · rw [String.toList_append]
    exact holds_append known _
  · rw [split]
    refine holds_iff.mpr ⟨(content ++ gap).toList, ("\n" ++ formatHint ++ "\n").toList, ?_⟩
    simp [preamble, ← String.toList_append, String.append_assoc]

/-- A write-back adds its missing edges below the lines that are there. -/
theorem updated_written (content : String) (kept edges : List Relationship) :
    updated (written content kept) edges =
      written content (kept ++ missing (written content kept) edges) := by
  by_cases none_missing : missing (written content kept) edges = []
  · rw [updated_eq_self_iff.mpr none_missing, none_missing, List.append_nil]
  · rw [updated_eq, addition, if_neg none_missing]
    by_cases none_kept : kept = []
    · rw [none_kept, written_nil] at none_missing ⊢
      rw [List.nil_append, written_of_ne_nil none_missing, String.append_assoc]
    · obtain ⟨front, ended⟩ := linesText_ends none_kept
      have ended_written : written content kept =
          content ++ separator content.toList ++ front ++ "\n" := by
        rw [written_of_ne_nil none_kept, ended, ← String.append_assoc]
      have closed : separator (written content kept).toList = "" :=
        separator_of_known (holds_header_written content none_kept) ended_written
      have some_kept : kept ++ missing (written content kept) edges ≠ [] := by simp [none_kept]
      rw [closed, String.empty_append, written_of_ne_nil some_kept, linesText_append,
        ← String.append_assoc, ← written_of_ne_nil none_kept]

/-- The line of some kept edge hides the pair, or the block that is put in front of the first line
mentions it. -/
def Overshadowed (content : String) (kept : List Relationship) (pair : String × String) : Prop :=
  (∃ edge ∈ kept, Hidden pair edge) ∨ (holds header.toList content.toList = false ∧
    ∃ first ∈ kept.head?, PairMentioned (preamble ++ line first) pair)

/-- What a line hides, it hides with the header before it too. -/
theorem Plain.block_mentions (plain : Plain edge) {pair : String × String}
    (hidden : Hidden pair edge) :
    PairMentioned (preamble ++ line edge) pair := by
  have mentioned := plain.pairMentioned_line_iff.mpr hidden
  unfold PairMentioned
  rw [String.toList_append]
  simpa using mentioned.around preamble.toList []

private theorem block_or_line_iff (plain : ∀ edge ∈ first :: rest, Plain edge)
    {pair : String × String} :
    (PairMentioned (preamble ++ line first) pair ∨ ∃ edge ∈ rest, PairMentioned (line edge) pair) ↔
      (∃ edge ∈ first :: rest, Hidden pair edge) ∨ PairMentioned (preamble ++ line first) pair := by
  constructor
  · rintro (block | ⟨edge, member, mentioned⟩)
    · exact .inr block
    · have later := List.mem_cons_of_mem first member
      exact .inl ⟨edge, later, (plain edge later).pairMentioned_line_iff.mp mentioned⟩
  · rintro (⟨edge, member, hidden⟩ | block)
    · rcases List.mem_cons.mp member with rfl | later
      · exact .inl ((plain edge member).block_mentions hidden)
      · exact .inr ⟨edge, later, (plain edge member).pairMentioned_line_iff.mpr hidden⟩
    · exact .inl block

section Mentioned

variable {content : String} {first : Relationship} {rest : List Relationship}
  {pair : String × String} (arrowless : Arrowless content.toList)
  (plain : ∀ edge ∈ first :: rest, Plain edge) (one_source : '\n' ∉ pair.1.toList)
  (one_target : '\n' ∉ pair.2.toList)
include arrowless plain one_source one_target

private theorem pairMentioned_written_known (known : holds header.toList content.toList = true) :
    PairMentioned (written content (first :: rest)) pair ↔
      ∃ edge ∈ first :: rest, Hidden pair edge := by
  obtain ⟨front, ended⟩ := separator_feed_of_known known
  have free : Arrowless front.toList := by
    have fed := (separator_shape content).resolve_right fun unknown => by simp [known] at unknown
    have whole := arrowless.append_feeds fed.2
    rw [← String.toList_append, ended, String.toList_append] at whole
    exact whole.of_inside (List.prefix_append _ _).isInfix
  have cut : (written content (first :: rest)).toList =
      front.toList ++ '\n' :: (linesText (first :: rest)).toList := by
    simp [written_of_ne_nil, ended]
  rw [PairMentioned, cut, mentioned_linesText free.standing one_source one_target]
  simp only [free.unmentioned, false_or]
  exact exists_congr fun edge => and_congr_right fun member =>
    (plain edge member).pairMentioned_line_iff

private theorem pairMentioned_written_unknown
    (unknown : holds header.toList content.toList = false) :
    PairMentioned (written content (first :: rest)) pair ↔
      (∃ edge ∈ first :: rest, Hidden pair edge) ∨ PairMentioned (preamble ++ line first) pair := by
  obtain ⟨_, gap, fed, split, placed⟩ :=
    (separator_shape content).resolve_left fun known => by simp [unknown] at known
  have block := preamble_line_standing first
  have cut : (written content (first :: rest)).toList = (content ++ gap).toList ++
      ((preamble ++ line first).toList ++ '\n' :: (linesText rest).toList) := by
    simp [written_of_ne_nil, split, linesText_cons]
  have below := mentioned_linesText block one_source one_target rest
  have mentions : PairMentioned (written content (first :: rest)) pair ↔
      Mentioned ((preamble ++ line first).toList ++ '\n' :: (linesText rest).toList)
        pair.1.toList pair.2.toList := by
    rw [PairMentioned, cut]
    rcases placed with empty | ⟨front, gapped⟩
    · rw [empty, String.toList_empty, List.nil_append]
    · have free : Arrowless (front ++ "\n").toList := by
        have whole := arrowless.append_feeds fed
        rw [← String.toList_append, gapped] at whole
        exact whole.of_inside ⟨[], ['\n'], by simp⟩
      have feeds : (front ++ "\n\n").toList = (front ++ "\n").toList ++ ['\n'] := by simp
      rw [gapped, feeds, List.append_assoc, List.singleton_append, ← List.cons_append,
        ← List.append_assoc, mentioned_linesText (free.standing.append_feed block) one_source one_target,
        mentioned_append_feed free.standing block one_source one_target, below]
      simp only [free.unmentioned, false_or]
  rw [mentions, below]
  exact block_or_line_iff plain

end Mentioned

/-- With lines below it, content without arrows mentions the pairs that these lines overshadow. -/
theorem pairMentioned_written_iff {content : String} {pair : String × String}
    (arrowless : Arrowless content.toList) (plain : ∀ edge ∈ kept, Plain edge)
    (one_source : '\n' ∉ pair.1.toList) (one_target : '\n' ∉ pair.2.toList) :
    PairMentioned (written content kept) pair ↔ Overshadowed content kept pair := by
  cases kept with
  | nil =>
    rw [written_nil]
    simp [PairMentioned, Overshadowed, arrowless.unmentioned]
  | cons first rest =>
    unfold Overshadowed
    cases known : holds header.toList content.toList with
    | true =>
      rw [pairMentioned_written_known arrowless plain one_source one_target known]
      simp
    | false =>
      rw [pairMentioned_written_unknown arrowless plain one_source one_target known]
      simp

end DevlogGraph.Ledger
