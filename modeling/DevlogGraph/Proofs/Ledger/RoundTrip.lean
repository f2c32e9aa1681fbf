import DevlogGraph.Proofs.Ledger.Line
import DevlogGraph.Proofs.Ledger.Missing

/-! Write-back and reading are inverse to each other for edges that a line can carry, and only for
these. Header, hint and separators are never read as edges. -/
namespace DevlogGraph.Ledger

open Text Pattern

/-- The header with the hint below it. -/
def preamble : String := header ++ "\n" ++ formatHint ++ "\n"

/-- A text that is read as nothing, whatever follows it. -/
def Silent (text : String) : Prop := ∀ more, relationships (text ++ more) = relationships more

private theorem silent_empty : Silent "" := by
  intro more
  rw [String.empty_append]

private theorem silent_preamble : Silent preamble := by
  intro more
  have header_silent : relationships header = [] := by decide
  have hint_silent : relationships formatHint = [] := by decide
  have parts : preamble ++ more = header ++ "\n" ++ (formatHint ++ "\n" ++ more) := by
    simp [preamble, String.append_assoc]
  rw [parts, relationships_append_mark, relationships_append_mark, header_silent, hint_silent]
  rfl

private theorem Silent.after_mark (silent : Silent text) : Silent ("\n" ++ text) := by
  intro more
  have cut := relationships_append_mark "" (text ++ more)
  rw [String.empty_append, relationships_empty, List.nil_append, silent] at cut
  rw [String.append_assoc, cut]

private theorem relationships_after_content (content : String) (silent : Silent text)
    (more : String) :
    relationships (content ++ ("\n" ++ text) ++ more) =
      relationships content ++ relationships more := by
  have parts : content ++ ("\n" ++ text) ++ more = content ++ "\n" ++ (text ++ more) := by
    simp [String.append_assoc]
  rw [parts, relationships_append_mark, silent]

/-- A text is complete if no unfinished line stands at its end. -/
def Complete (content : String) : Prop := content = "" ∨ ∃ front, content = front ++ "\n"

private theorem relationships_after_complete (complete : Complete content) (silent : Silent text)
    (more : String) :
    relationships (content ++ text ++ more) = relationships content ++ relationships more := by
  rcases complete with rfl | ⟨front, rfl⟩
  · rw [String.empty_append, silent, relationships_empty, List.nil_append]
  · have ended := relationships_append_mark front ""
    rw [String.append_empty, relationships_empty, List.append_nil] at ended
    rw [String.append_assoc, relationships_append_mark, silent, ended]

private theorem complete_of_endsWith {content : String}
    (ends : endsWith ['\n'] content.toList = true) :
    Complete content := by
  obtain ⟨front, split⟩ := List.isSuffixOf_iff_suffix.mp ends
  refine .inr ⟨String.ofList front, ?_⟩
  apply String.toList_injective
  simp [split]

/-- A separator finishes an unfinished line, and is silent apart from that. -/
theorem separator_cases (content : String) :
    (Complete content ∧ Silent (separator content.toList)) ∨
      ∃ rest, separator content.toList = "\n" ++ rest ∧ Silent rest := by
  unfold separator
  by_cases known : holds header.toList content.toList = true
  · rw [if_pos known]
    by_cases ended : endsWith ['\n'] content.toList = true
    · rw [if_pos ended]
      exact .inl ⟨complete_of_endsWith ended, silent_empty⟩
    · rw [if_neg ended]
      exact .inr ⟨"", rfl, silent_empty⟩
  · rw [if_neg known]
    have assembled (gap : String) :
        gap ++ header ++ "\n" ++ formatHint ++ "\n" = gap ++ preamble := by
      simp [preamble, String.append_assoc]
    simp only [assembled]
    by_cases empty : content.toList.isEmpty = true
    · rw [if_pos empty, String.empty_append]
      exact .inl ⟨.inl (by simpa using empty), silent_preamble⟩
    · rw [if_neg empty]
      by_cases gapped : endsWith ['\n', '\n'] content.toList = true
      · rw [if_pos gapped, String.empty_append]
        have ended : endsWith ['\n'] content.toList = true :=
          List.isSuffixOf_iff_suffix.mpr
            (.trans ⟨['\n'], rfl⟩ (List.isSuffixOf_iff_suffix.mp gapped))
        exact .inl ⟨complete_of_endsWith ended, silent_preamble⟩
      · rw [if_neg gapped]
        by_cases ended : endsWith ['\n'] content.toList = true
        · rw [if_pos ended]
          exact .inl ⟨complete_of_endsWith ended, silent_preamble.after_mark⟩
        · rw [if_neg ended]
          exact .inr ⟨"\n" ++ preamble, rfl, silent_preamble.after_mark⟩

/-- A separator adds no edge, and takes none away. -/
theorem relationships_separator (content more : String) :
    relationships (content ++ separator content.toList ++ more) =
      relationships content ++ relationships more := by
  rcases separator_cases content with ⟨complete, silent⟩ | ⟨rest, split, silent⟩
  · exact relationships_after_complete complete silent more
  · rw [split]
    exact relationships_after_content content silent more

theorem relationships_linesText (edges : List Relationship) :
    relationships (linesText edges) = edges.flatMap fun edge => relationships (line edge) := by
  induction edges with
  | nil => rfl
  | cons edge rest ih =>
    have first : linesText (edge :: rest) = line edge ++ "\n" ++ linesText rest := by
      simp [linesText, String.join_cons]
    rw [first, relationships_append_mark, ih, List.flatMap_cons]

/-- No field of the edge goes over the end of a line. -/
structure OneLine (edge : Relationship) : Prop where
  source : '\n' ∉ edge.source.toList
  target : '\n' ∉ edge.target.toList
  kind : '\n' ∉ edge.kind.toList

theorem oneLine_of_mem_relationships (member : edge ∈ relationships text) : OneLine edge := by
  rw [relationships_eq] at member
  obtain ⟨piece, piece_member, read⟩ := List.mem_filterMap.mp member
  obtain ⟨source, target, written, stated⟩ := relationshipOfLine_sound read
  obtain ⟨from_source, from_target, from_kind⟩ := stated.blank_mem (c := '\n') (by decide)
  have absent := mark_not_mem_pieces piece_member
  exact ⟨absent ∘ from_source, absent ∘ from_target, absent ∘ from_kind⟩

theorem relationships_line (one : OneLine edge) :
    relationships (line edge) = (relationshipOfLine (line edge).toList).toList := by
  have absent : '\n' ∉ (line edge).toList := by
    rw [line_toList]
    simp [lineEnd, one.source, one.target, one.kind]
  rw [relationships_eq, pieces_of_not_mem absent]
  cases read : relationshipOfLine (line edge).toList with
  | none => exact List.filterMap_cons_none read
  | some _ => exact List.filterMap_cons_some read

/-- A map that may drop elements changes nothing only if it keeps each of them. -/
private theorem filterMap_eq_self_iff {keep : α → Option α} {list : List α} :
    list.filterMap keep = list ↔ ∀ element ∈ list, keep element = some element := by
  constructor
  · intro same
    induction list with
    | nil => simp
    | cons first rest ih =>
      cases kept : keep first with
      | none =>
        rw [List.filterMap_cons_none kept] at same
        have bounded := List.length_filterMap_le keep rest
        rw [same, List.length_cons] at bounded
        omega
      | some value =>
        rw [List.filterMap_cons_some kept, List.cons.injEq] at same
        intro element member
        rcases List.mem_cons.mp member with rfl | later
        · rw [kept, same.1]
        · exact ih same.2 element later
  · intro kept
    induction list with
    | nil => rfl
    | cons first rest ih =>
      rw [List.filterMap_cons_some (kept first (by simp))]
      rw [ih fun element member => kept element (by simp [member])]

/-- An edge that is read again from where it was written. -/
structure Legible (edge : Relationship) : Prop extends LineReadable edge where
  one_line : OneLine edge

private theorem relationships_linesText_of_oneLine (ones : ∀ edge ∈ edges, OneLine edge) :
    relationships (linesText edges) =
      edges.filterMap fun edge => relationshipOfLine (line edge).toList := by
  rw [relationships_linesText]
  induction edges with
  | nil => rfl
  | cons first rest ih =>
    rw [List.flatMap_cons, relationships_line (ones first (by simp)),
      ih fun edge member => ones edge (by simp [member])]
    cases read : relationshipOfLine (line first).toList with
    | none => simp [read]
    | some _ => simp [read]

/-- Lines give back their edges exactly if every edge is legible. -/
theorem relationships_linesText_iff
    (normal : ∀ edge ∈ edges,
      normalName edge.source = edge.source ∧ normalName edge.target = edge.target) :
    relationships (linesText edges) = edges ↔ ∀ edge ∈ edges, Legible edge := by
  constructor
  · intro same
    have ones : ∀ edge ∈ edges, OneLine edge := by
      intro edge member
      rw [← same] at member
      exact oneLine_of_mem_relationships member
    rw [relationships_linesText_of_oneLine ones, filterMap_eq_self_iff] at same
    intro edge member
    obtain ⟨source, target⟩ := normal edge member
    exact ⟨(relationshipOfLine_line_iff source target).mp (same edge member), ones edge member⟩
  · intro legible
    have ones : ∀ edge ∈ edges, OneLine edge := fun edge member => (legible edge member).one_line
    rw [relationships_linesText_of_oneLine ones, filterMap_eq_self_iff]
    intro edge member
    obtain ⟨source, target⟩ := normal edge member
    exact (legible edge member).reads source target

/-- The appended edges are the first ones of the pairs that the content does not mention. Reading back
what was written gives the old edges and these exactly if each of these is legible; what stands between
the two is never read. -/
theorem render_reads_back (content : String) (edges : List Relationship) (out : String)
    (normal : ∀ edge ∈ edges,
      normalName edge.source = edge.source ∧ normalName edge.target = edge.target)
    (rendered : render content edges = some out) :
    Firsts content edges (missing content edges) ∧
    (∀ kept, Firsts content edges kept →
      (relationships out = relationships content ++ kept ↔ ∀ edge ∈ kept, Legible edge)) ∧
    ∀ more, relationships (content ++ separator content.toList ++ more) =
      relationships content ++ relationships more := by
  obtain ⟨_, rfl⟩ := render_eq_some_iff.mp rendered
  refine ⟨missing_firsts content edges, ?_, relationships_separator content⟩
  intro kept firsts
  obtain rfl := firsts.unique (missing_firsts content edges)
  rw [relationships_separator, List.append_cancel_left_eq]
  apply relationships_linesText_iff
  intro edge member
  exact normal edge (firsts.sublist.subset member)

/-- The unfinished line is finished. Its own edge and the second edge of a pair are not written, and
the written one follows the old one. -/
theorem render_reads_back_after_unfinished_line :
    let edges : List Relationship :=
      [⟨"alpha", "beta", "uses"⟩, ⟨"gateway", "ledger", "stores in"⟩, ⟨"gateway", "ledger", "reads"⟩]
    let content := "- Alpha -> beta"
    let out := content ++ ("\n\n" ++ preamble) ++ "- gateway -> ledger (stores in)\n"
    (∀ edge ∈ edges, normalName edge.source = edge.source ∧ normalName edge.target = edge.target) ∧
    render content edges = some out ∧
    Firsts content edges [⟨"gateway", "ledger", "stores in"⟩] ∧
    relationships out = [⟨"alpha", "beta", "depends_on"⟩, ⟨"gateway", "ledger", "stores in"⟩] ∧
    Legible ⟨"gateway", "ledger", "stores in"⟩ := by
  intro edges content out
  have normal : ∀ edge ∈ edges,
      normalName edge.source = edge.source ∧ normalName edge.target = edge.target := by
    decide +kernel
  have rendered : render content edges = some out := by decide +kernel
  have kept : missing content edges = [⟨"gateway", "ledger", "stores in"⟩] := by decide +kernel
  have before : relationships content = [⟨"alpha", "beta", "depends_on"⟩] := by decide +kernel
  have after : relationships out =
      [⟨"alpha", "beta", "depends_on"⟩, ⟨"gateway", "ledger", "stores in"⟩] := by
    decide +kernel
  obtain ⟨firsts, reads, _⟩ := render_reads_back content edges out normal rendered
  rw [kept] at firsts
  refine ⟨normal, rendered, firsts, after, ?_⟩
  have legible := (reads _ firsts).mp (by rw [after, before]; rfl)
  exact legible _ List.mem_cons_self

end DevlogGraph.Ledger
