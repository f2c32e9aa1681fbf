import DevlogGraph.Proofs.Model.Compact
import DevlogGraph.Proofs.Text.Excerpt

/-! Every reply is settled, whatever it holds: it gives findings under normal names, or it is
unparsable and its own beginning is kept. -/
namespace DevlogGraph.Model

open Json Text

/-- All names are in normal form, and none is too short to be one. -/
structure Named (found : Extraction) : Prop where
  entities : ∀ entity ∈ found.entities,
    normalName entity.name = entity.name ∧ 2 ≤ entity.name.length
  sources : ∀ edge ∈ found.relationships, normalName edge.source = edge.source ∧ edge.source ≠ ""
  targets : ∀ edge ∈ found.relationships, normalName edge.target = edge.target ∧ edge.target ≠ ""

theorem Says.named (stated : Says body found) : Named found := by
  have edges : ∀ edge ∈ found.relationships, (normalName edge.source = edge.source ∧
      edge.source ≠ "") ∧ (normalName edge.target = edge.target ∧ edge.target ≠ "") := by
    intro edge member
    rw [stated.relationships] at member
    obtain ⟨listed, both⟩ := List.mem_filter.mp member
    obtain ⟨raw, _, rfl⟩ := List.mem_map.mp listed
    rw [decide_eq_true_eq] at both
    exact ⟨⟨normalName_normalName _, both.1⟩, normalName_normalName _, both.2⟩
  refine ⟨?_, fun edge member => (edges edge member).1, fun edge member => (edges edge member).2⟩
  intro entity member
  rw [stated.entities] at member
  obtain ⟨raw, _, inside⟩ := List.mem_flatMap.mp member
  obtain ⟨name, kept, rfl⟩ := List.mem_map.mp inside
  obtain ⟨normal, long⟩ := List.mem_filter.mp kept
  obtain ⟨written, _, rfl⟩ := List.mem_map.mp normal
  exact ⟨normalName_normalName written, of_decide_eq_true long⟩

/-- How a reply may end. The payload is read, but the beginning of the whole reply is kept. -/
inductive Verdict (reply : String) : Except Failure Extraction → Prop where
  | read (payload : readAll replyLayout.read (cleaned reply.toList) = .ok body)
      (stated : Says body found) (named : Named found) : Verdict reply (.ok found)
  | unparsable (payload : readAll replyLayout.read (cleaned reply.toList) = .error fault)
      (kept : Cuts 200 reply beginning) :
      Verdict reply (.error (.unparsable (fault.message (cleaned reply.toList)) beginning))

theorem readReply_verdict (reply : String) : Verdict reply (readReply reply) := by
  unfold readReply
  dsimp only
  split
  · rename_i body payload
    have stated := says_iff.mpr (Eq.refl body.extraction)
    exact .read payload stated stated.named
  · rename_i fault payload
    exact .unparsable payload (excerpt_cuts _ reply)

/-- Every reply is settled, and every excerpt ends between two characters. -/
theorem readReply_settles : (∀ reply, Verdict reply (readReply reply)) ∧
    ∀ limit text, Cuts limit text (excerpt limit text) :=
  ⟨readReply_verdict, excerpt_cuts⟩

end DevlogGraph.Model
