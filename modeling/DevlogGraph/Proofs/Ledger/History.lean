import Mathlib.Data.List.Nodup
import DevlogGraph.Ledger.File
import DevlogGraph.Proofs.Ledger.Update

/-! Write-backs to one file, one after another. The file only grows, each pair is appended once and
the header at most once, and what has been written back is not written again. -/
namespace DevlogGraph.Ledger

open Text

/-- The file with this text. -/
def holding (content : String) : File := some content.toUTF8

private theorem readText_holding (content : String) : readText (holding content) = .ok content := by
  have decoded : String.fromUTF8? content.toUTF8 = some content := dif_pos content.isValidUTF8
  rw [holding, readText, decoded]

private theorem holding_inj : holding content = holding other ↔ content = other := by
  constructor
  · intro same
    have read := readText_holding content
    rw [same, readText_holding] at read
    exact (Except.ok.inj read).symm
  · exact congrArg holding

private theorem holding_of_readText {file : File} (read : readText file = .ok content) :
    file = holding content := by
  cases file with
  | none => cases read
  | some bytes =>
    rw [readText, String.fromUTF8?] at read
    by_cases valid : bytes.IsValidUTF8
    · simp only [dif_pos valid] at read
      cases read
      rfl
    · simp only [dif_neg valid] at read
      cases read

theorem writeBack_unreadable (path : String) {file : File} {edges : List Relationship}
    (asked : edges ≠ []) (unreadable : ∀ content, file ≠ holding content) :
    ∃ reason, writeBack path file edges = ⟨.error (.io reason), file, []⟩ := by
  have some_edges : ¬ edges.isEmpty = true := by simpa using asked
  cases read : readText file with
  | ok content => exact absurd (holding_of_readText read) (unreadable content)
  | error reason =>
    refine ⟨reason, ?_⟩
    rw [writeBack, if_neg some_edges, read]

/-- What a write-back does to a text. -/
theorem writeBack_holding (path content : String) (edges : List Relationship) :
    writeBack path (holding content) edges = {
      outcome := .ok (missing content edges).length
      file := holding (updated content edges)
      events := if missing content edges = [] then []
        else [.writtenBack path (missing content edges).length] } := by
  by_cases none_missing : missing content edges = []
  · rw [updated_eq_self_iff.mpr none_missing, none_missing, if_pos rfl, writeBack]
    split
    · rfl
    · rw [readText_holding]
      dsimp only
      rw [render_eq_none_iff.mpr none_missing, none_missing]
  · have asked : ¬ edges.isEmpty = true := by
      intro empty
      rw [List.isEmpty_iff.mp empty] at none_missing
      exact none_missing rfl
    rw [if_neg none_missing, writeBack, if_neg asked, readText_holding]
    dsimp only
    rw [updated, render_eq_some_iff.mpr ⟨none_missing, rfl⟩]
    rfl

/-- The file is the same, or a text that has become longer at its end. -/
def Grows (before after : File) : Prop :=
  after = before ∨ ∃ content more, before = holding content ∧ after = holding (content ++ more)

theorem Grows.refl (file : File) : Grows file file := .inl rfl

theorem Grows.trans (first : Grows before middle) (second : Grows middle after) :
    Grows before after := by
  rcases first with rfl | ⟨content, more, rfl, rfl⟩
  · exact second
  · rcases second with rfl | ⟨grown, others, same, rfl⟩
    · exact .inr ⟨content, more, rfl, rfl⟩
    · obtain rfl := holding_inj.mp same
      exact .inr ⟨content, more ++ others, rfl, by rw [String.append_assoc]⟩

theorem Grows.text (grows : Grows (holding content) after) :
    ∃ more, after = holding (content ++ more) := by
  rcases grows with rfl | ⟨text, more, same, rfl⟩
  · exact ⟨"", by rw [String.append_empty]⟩
  · exact ⟨more, by rw [holding_inj.mp same]⟩

/-- No byte changes or goes. -/
theorem Grows.bytes (grows : Grows before after) :
    ∃ more : ByteArray, after = before.map (· ++ more) := by
  rcases grows with rfl | ⟨content, more, rfl, rfl⟩
  · exact ⟨.empty, by cases after <;> simp⟩
  · exact ⟨more.toUTF8, congrArg some String.toByteArray_append⟩

theorem grows_writeBack (path : String) (file : File) (edges : List Relationship) :
    Grows file (writeBack path file edges).file := by
  by_cases readable : ∃ content, file = holding content
  · obtain ⟨content, rfl⟩ := readable
    rw [writeBack_holding]
    exact .inr ⟨content, addition content edges, rfl, congrArg holding (updated_eq content edges)⟩
  · by_cases asked : edges = []
    · rw [asked]
      exact .refl file
    · obtain ⟨reason, written⟩ := writeBack_unreadable path asked (not_exists.mp readable)
      rw [written]
      exact .refl file

/-- What a file holds later on, once a text has been written back to it. -/
private theorem later_holding (grows : Grows (writeBack path (holding content) edges).file file) :
    ∃ more, file = holding (updated content edges ++ more) := by
  rw [writeBack_holding] at grows
  exact grows.text

/-- One write-back of several, with the file that it found. -/
structure Pass where
  file : File
  edges : List Relationship
  written : Written

/-- Write back one list after the other; each finds the file that the one before it has left. -/
def passes (path : String) : File → List (List Relationship) → List Pass
  | _, [] => []
  | file, edges :: later =>
      let written := writeBack path file edges
      ⟨file, edges, written⟩ :: passes path written.file later

private theorem passes_edges (path : String) (file : File) (batches : List (List Relationship)) :
    (passes path file batches).map (·.edges) = batches := by
  induction batches generalizing file with
  | nil => rfl
  | cons edges later ih => rw [passes, List.map_cons, ih]

/-- Every pass is the write-back of its own edges to a file that has grown from the first one. -/
private theorem of_mem_passes {pass : Pass} (member : pass ∈ passes path file batches) :
    Grows file pass.file ∧ pass.written = writeBack path pass.file pass.edges := by
  induction batches generalizing file with
  | nil => cases member
  | cons edges later ih =>
    rcases List.mem_cons.mp member with rfl | there
    · exact ⟨.refl file, rfl⟩
    · obtain ⟨grows, written⟩ := ih there
      exact ⟨(grows_writeBack path file edges).trans grows, written⟩

/-- What holds between a pass and any later state of its file holds along the whole run. -/
theorem passes_pairwise {relation : Pass → Pass → Prop}
    (step : ∀ (file : File) (edges : List Relationship) (later : Pass),
      Grows (writeBack path file edges).file later.file →
      later.written = writeBack path later.file later.edges →
      relation ⟨file, edges, writeBack path file edges⟩ later)
    (file : File) (batches : List (List Relationship)) :
    (passes path file batches).Pairwise relation := by
  induction batches generalizing file with
  | nil => exact .nil
  | cons edges later ih =>
    refine .cons ?_ (ih _)
    intro pass member
    obtain ⟨grows, written⟩ := of_mem_passes member
    exact step file edges pass grows written

namespace Pass

/-- The edges whose lines the pass appends. -/
def added (pass : Pass) : List Relationship :=
  match readText pass.file with
  | .ok content => missing content pass.edges
  | .error _ => []

private theorem added_of_holding {pass : Pass} (held : pass.file = holding content) :
    pass.added = missing content pass.edges := by
  rw [added, held, readText_holding]

/-- The pass appends the header block, perhaps behind line feeds. -/
def Heads (pass : Pass) : Prop :=
  ∃ content gap rest, pass.file = holding content ∧ Feeds gap ∧
    pass.written.file = holding (content ++ (gap ++ (preamble ++ rest)))

private theorem heads_iff {pass : Pass}
    (written : pass.written = writeBack path pass.file pass.edges)
    (held : pass.file = holding content) :
    pass.Heads ↔ holds header.toList content.toList = false ∧ missing content pass.edges ≠ [] := by
  have after : pass.written.file = holding (content ++ addition content pass.edges) := by
    rw [written, held, writeBack_holding, updated_eq]
  rw [← addition_header_iff]
  constructor
  · rintro ⟨other, gap, rest, same, fed, appended⟩
    obtain rfl := holding_inj.mp (held.symm.trans same)
    rw [after, holding_inj] at appended
    exact ⟨gap, rest, fed, by simpa using appended⟩
  · rintro ⟨gap, rest, fed, appended⟩
    exact ⟨content, gap, rest, held, fed, by rw [after, appended]⟩

/-- What a single pass does, by the file it finds. -/
structure Lawful (pass : Pass) (path : String) : Prop where
  grows : ∃ more : ByteArray, pass.written.file = pass.file.map (· ++ more)
  untouched : pass.edges = [] → pass.written = ⟨.ok 0, pass.file, []⟩
  unreadable : pass.edges ≠ [] → (∀ content, pass.file ≠ holding content) →
    ∃ reason, pass.written = ⟨.error (.io reason), pass.file, []⟩
  counted : ∀ content, pass.file = holding content →
    pass.written.outcome = .ok ((pass.edges.map Relationship.ends).toFinset.filter
      (¬ PairMentioned content ·)).card
  quiet : ∀ content, pass.file = holding content →
    (pass.written.outcome = .ok 0 ↔ pass.written.file = pass.file) ∧
    (pass.written.outcome = .ok 0 ↔ pass.written.events = [])
  appended : ∀ content, pass.file = holding content → pass.added ≠ [] →
    pass.written.file = holding (content ++ separator content.toList ++ linesText pass.added)
  mentioned : ∀ content, pass.file = holding content →
    ∃ after, pass.written.file = holding after ∧
      ∀ edge ∈ pass.edges, PairMentioned after edge.ends
  headed : ∀ content, pass.file = holding content →
    (pass.Heads ↔ holds header.toList content.toList = false ∧ pass.added ≠ [])
  placed : ∀ content gap rest, pass.file = holding content → Feeds gap →
    pass.written.file = holding (content ++ (gap ++ (preamble ++ rest))) →
    AfterEmptyLine (content ++ gap)

private theorem lawful_of_written {pass : Pass}
    (written : pass.written = writeBack path pass.file pass.edges) :
    pass.Lawful path := by
  constructor
  · rw [written]
    exact (grows_writeBack path pass.file pass.edges).bytes
  · intro none_asked
    rw [written, none_asked]
    rfl
  · intro asked unreadable
    rw [written]
    exact writeBack_unreadable path asked unreadable
  · intro content held
    rw [written, held, writeBack_holding, length_missing]
  · intro content held
    rw [written, held, writeBack_holding]
    dsimp only
    rw [holding_inj, updated_eq_self_iff, Except.ok.injEq, List.length_eq_zero_iff]
    refine ⟨Iff.rfl, ?_⟩
    by_cases none_missing : missing content pass.edges = [] <;> simp [none_missing]
  · intro content held some_added
    rw [added_of_holding held] at some_added ⊢
    rw [written, held, writeBack_holding, updated_eq, addition, if_neg some_added,
      String.append_assoc]
  · intro content held
    refine ⟨updated content pass.edges, ?_, fun edge => pairMentioned_updated content⟩
    rw [written, held, writeBack_holding]
  · intro content held
    rw [heads_iff written held, added_of_holding held]
  · intro content gap rest held fed appended
    rw [written, held, writeBack_holding, holding_inj, updated_eq] at appended
    apply afterEmptyLine_of_header fed
    simpa using appended

/-- How a pass and a later one to the same file are related. -/
structure Before (earlier later : Pass) : Prop where
  grows : ∃ more : ByteArray, later.file = earlier.written.file.map (· ++ more)
  repeated : ∀ count, earlier.written.outcome = .ok count →
    later.edges.map Relationship.ends ⊆ earlier.edges.map Relationship.ends →
    later.written = ⟨.ok 0, later.file, []⟩
  header : ¬ (earlier.Heads ∧ later.Heads)
  fresh : (earlier.added.map Relationship.ends).Disjoint (later.added.map Relationship.ends)

private theorem before_of_grows {later : Pass} (file : File) (edges : List Relationship)
    (grows : Grows (writeBack path file edges).file later.file)
    (written : later.written = writeBack path later.file later.edges) :
    Before ⟨file, edges, writeBack path file edges⟩ later := by
  constructor
  · exact grows.bytes
  · intro count succeeded covered
    by_cases asked : later.edges = []
    · rw [written, asked]
      rfl
    · have earlier_asked : edges ≠ [] := by
        rintro rfl
        exact asked (List.map_eq_nil_iff.mp (List.subset_nil.mp covered))
      by_cases readable : ∃ content, file = holding content
      · obtain ⟨content, rfl⟩ := readable
        obtain ⟨more, held⟩ := later_holding grows
        have known : missing (updated content edges ++ more) later.edges = [] := by
          rw [missing_eq_nil_iff]
          intro edge member
          obtain ⟨first, first_member, same⟩ :=
            List.mem_map.mp (covered (List.mem_map_of_mem member))
          rw [← same]
          exact (pairMentioned_updated content first_member).append more
        rw [written, held, writeBack_holding, known, updated_eq_self_iff.mpr known]
        rfl
      · obtain ⟨reason, failed⟩ := writeBack_unreadable path earlier_asked (not_exists.mp readable)
        rw [failed] at succeeded
        cases succeeded
  · rintro ⟨⟨content, gap, rest, held, fed, appended⟩, later_heads⟩
    obtain rfl : file = holding content := held
    rw [writeBack_holding, holding_inj, updated_eq] at appended
    have header_held := holds_header_of_addition (by simpa using appended :
      addition content edges = gap ++ (preamble ++ rest))
    obtain ⟨more, later_held⟩ := later_holding grows
    have unknown := ((heads_iff written later_held).mp later_heads).1
    rw [String.toList_append, holds_append header_held] at unknown
    cases unknown
  · intro pair earlier_pair later_pair
    by_cases readable : ∃ content, file = holding content
    · obtain ⟨content, rfl⟩ := readable
      obtain ⟨more, held⟩ := later_holding grows
      rw [added_of_holding rfl, mem_missing_ends_iff] at earlier_pair
      rw [added_of_holding held, mem_missing_ends_iff] at later_pair
      obtain ⟨edge, member, rfl⟩ := List.mem_map.mp earlier_pair.1
      exact later_pair.2 ((pairMentioned_updated content member).append more)
    · have unread : (⟨file, edges, writeBack path file edges⟩ : Pass).added = [] := by
        unfold added
        cases read : readText file with
        | ok content => exact absurd ⟨content, holding_of_readText read⟩ readable
        | error reason => rfl
      rw [unread] at earlier_pair
      cases earlier_pair

theorem added_ends_nodup (pass : Pass) : (pass.added.map Relationship.ends).Nodup := by
  unfold added
  split
  · exact missing_ends_nodup _ _
  · exact List.nodup_nil

end Pass

/-- Whatever is written back to a file, and in however many passes: the file only grows, a pass
counts the pairs that were not mentioned and changes the file exactly if there are any, what was
asked for is mentioned from then on and not appended again, no pair is appended twice, and the
header block comes once at most, behind an empty line. -/
theorem writeBacks_append_only (path : String) (file : File) (batches : List (List Relationship)) :
    let run := passes path file batches
    run.map (·.edges) = batches ∧
    (∀ pass ∈ run, pass.written = writeBack path pass.file pass.edges ∧ pass.Lawful path) ∧
    run.Pairwise Pass.Before ∧
    (run.flatMap fun pass => pass.added.map Relationship.ends).Nodup := by
  intro run
  have ordered : run.Pairwise Pass.Before :=
    passes_pairwise (fun file edges _ => Pass.before_of_grows file edges) file batches
  refine ⟨passes_edges path file batches, ?_, ordered, ?_⟩
  · intro pass member
    have written := (of_mem_passes member).2
    exact ⟨written, Pass.lawful_of_written written⟩
  · rw [List.nodup_flatMap]
    exact ⟨fun pass _ => pass.added_ends_nodup, ordered.imp fun before => before.fresh⟩

/-- Two edges with the same ends, one of them again, and a file that is no text. -/
theorem writeBacks_append_only_again :
    let edge : Relationship := ⟨"a.b", "", "uses\n->"⟩
    let batches := [[edge, { edge with kind := "reads" }], [edge], []]
    let run := passes "log.md" (holding "Notes\n") batches
    (run.map fun pass => pass.added.length) = [1, 0, 0] ∧
    run.Pairwise Pass.Before ∧
    ∀ pass ∈ passes "log.md" (some ⟨#[0xFF]⟩) batches, pass.Lawful "log.md" := by
  intro edge batches run
  refine ⟨by decide +kernel, (writeBacks_append_only _ _ _).2.2.1, ?_⟩
  exact fun pass member => ((writeBacks_append_only _ _ _).2.1 pass member).2

end DevlogGraph.Ledger
