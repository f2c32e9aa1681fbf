import DevlogGraph.Proofs.Model.Reply
import DevlogGraph.Proofs.Model.Shape
import DevlogGraph.Proofs.Name
import DevlogGraph.Proofs.Text.Blank

/-! Replies that are one JSON value and nothing else. They are read exactly if the value has the shape
of a reply, and what they say is written out here. -/
namespace DevlogGraph.Model

open Json Text

private theorem visible_of_isOpening (opening : isOpening c = true) : isBlank c = false :=
  false_of_digit_or_mem (by decide) (fun _ digit => Decimal.isBlank_of_isDigit digit) opening

private theorem visible_of_isClosing (closing : isClosing c = true) : isBlank c = false :=
  false_of_digit_or_mem (by decide) (fun _ digit => Decimal.isBlank_of_isDigit digit) closing

private theorem write_trimmed {held : Value} (integral : held.Integral) : Trimmed held.write := by
  obtain ⟨c, more, start, opens⟩ := write_opens integral
  obtain ⟨front, d, stop, closing⟩ := write_closes integral
  constructor
  · simp [start, visible_of_isOpening opens.opening]
  · simp [stop, visible_of_isClosing closing]

private theorem withoutOpeningFence_of_head (plain : c ≠ '\x60') (more : List Char) :
    withoutOpeningFence (c :: more) = c :: more := by
  simp [withoutOpeningFence, withoutPrefix?, jsonFence, fence, Ne.symm plain]

private theorem withoutClosingFence_of_last (plain : c ≠ '\x60') (front : List Char) :
    withoutClosingFence (front ++ [c]) = front ++ [c] := by
  rw [withoutClosingFence, if_neg]
  intro fenced
  obtain ⟨before, same⟩ := List.isSuffixOf_iff_suffix.mp fenced
  have last := congrArg List.getLast? same
  exact plain (by simpa [fence] using last.symm)

theorem cleaned_write {held : Value} (integral : held.Integral) : cleaned held.write = held.write := by
  have trimmed := (trim_eq_self_iff _).mpr (write_trimmed integral)
  obtain ⟨c, more, start, opens⟩ := write_opens integral
  obtain ⟨front, d, stop, closing⟩ := write_closes integral
  have opened : withoutOpeningFence held.write = held.write := by
    rw [start]
    exact withoutOpeningFence_of_head (ne_of_isOpening opens.opening (by decide)) more
  have ended : withoutClosingFence held.write = held.write := by
    rw [stop]
    refine withoutClosingFence_of_last ?_ front
    rintro rfl
    cases closing
  rw [cleaned, trimmed, opened, ended, trimmed]

/-- The findings of a reply: an entity for each name that has at least two characters in its normal
form, and each edge both ends of which have a name. -/
structure Says (body : ReplyBody) (found : Extraction) : Prop where
  entities : found.entities = body.entities.flatMap fun raw =>
    ((raw.names.map normalName).filter fun name => decide (2 ≤ name.length)).map fun name =>
      { name, kind := raw.kind, confidence := 1.0, source := "llm" }
  relationships : found.relationships = (body.relationships.map fun raw =>
    { source := normalName raw.source, target := normalName raw.target, kind := raw.kind }).filter
      fun edge => decide (edge.source ≠ "" ∧ edge.target ≠ "")

private theorem entity_of_reply (name kind : String) :
    Entity.of (normalName name) kind confidence sourceTag =
      { name := normalName name, kind, confidence := 1.0, source := "llm" } := by
  rw [Entity.of, normalName_normalName, clampUnit_confidence]
  rfl

private theorem replyEntity_entities (raw : ReplyEntity) : raw.entities =
    ((raw.names.map normalName).filter fun name => decide (2 ≤ name.length)).map fun name =>
      { name, kind := raw.kind, confidence := 1.0, source := "llm" } := by
  obtain ⟨names, kind⟩ := raw
  unfold ReplyEntity.entities
  dsimp only
  induction names with
  | nil => rfl
  | cons name later ih =>
    rw [List.filterMap_cons, List.map_cons, List.filter_cons, entity_of_reply]
    by_cases short : (normalName name).length < shortestName
    · have dropped : ¬ 2 ≤ (normalName name).length := Nat.not_le.mpr short
      rw [if_pos short, if_neg (by rwa [decide_eq_true_eq])]
      exact ih
    · have kept : 2 ≤ (normalName name).length := Nat.not_lt.mp short
      rw [if_neg short, if_pos (by rwa [decide_eq_true_eq])]
      exact congrArg (_ :: ·) ih

private theorem replyRelationships (raws : List ReplyRelationship) :
    raws.filterMap ReplyRelationship.relationship? = (raws.map fun raw =>
      { source := normalName raw.source, target := normalName raw.target, kind := raw.kind }).filter
        fun edge => decide (edge.source ≠ "" ∧ edge.target ≠ "") := by
  induction raws with
  | nil => rfl
  | cons raw later ih =>
    rw [List.filterMap_cons, List.map_cons, List.filter_cons, ReplyRelationship.relationship?,
      Relationship.of, normalName_normalName, normalName_normalName]
    by_cases unnamed : normalName raw.source = "" ∨ normalName raw.target = ""
    · rw [if_pos (by simpa using unnamed), if_neg (by simpa [or_iff_not_imp_left] using unnamed)]
      exact ih
    · rw [if_neg (by simpa using unnamed), if_pos (by simpa [not_or] using unnamed)]
      exact congrArg (_ :: ·) ih

theorem says_iff {body : ReplyBody} {found : Extraction} :
    Says body found ↔ found = body.extraction := by
  have entities := funext replyEntity_entities
  have relationships := replyRelationships body.relationships
  obtain ⟨nodes, edges⟩ := found
  constructor
  · rintro ⟨first, second⟩
    rw [ReplyBody.extraction, entities, relationships, ← first, ← second]
  · rintro same
    rw [ReplyBody.extraction, entities, relationships] at same
    cases same
    exact ⟨rfl, rfl⟩

/-- A value is read if it states a reply, and then as what it says; any other value is unparsable. -/
theorem readReply_compact {held : Value} (integral : held.Integral) :
    (∀ found, readReply held.compact = .ok found ↔
      ∃ body, StatesReply held body ∧ Says body found) ∧
    ((∀ body, ¬ StatesReply held body) → ∃ reason,
      readReply held.compact = .error (.unparsable reason (excerpt excerptLimit held.compact))) := by
  have read := reads_reply.readAll integral
  unfold readReply
  dsimp only
  rw [Value.compact, String.toList_ofList, cleaned_write integral]
  simp only [says_iff, ← replyMeaning_iff, ← read]
  cases readAll replyLayout.read held.write with
  | ok body =>
    refine ⟨fun found => ?_, fun unstated => absurd rfl (unstated body)⟩
    simp [Except.toOption, eq_comm]
  | error fault => exact ⟨fun found => by simp [Except.toOption], fun _ => ⟨_, rfl⟩⟩

/-- Members in any order, one that is passed over, several names, and an edge written as a list; and
an entity without a type. -/
theorem readReply_compact_of_names_and_elements :
    readReply (Value.object [
        ("relationships", .list [.list [.text "API", .text "db", .text "uses"]]),
        ("entities", .list [.object [("type", .text "service"), ("rank", .list [.number (.natural 3)]),
          ("name", .list [.text " API ", .text "x", .text "Db"])]])]).compact =
      .ok ⟨[⟨"api", "service", 1.0, "llm"⟩, ⟨"db", "service", 1.0, "llm"⟩], [⟨"api", "db", "uses"⟩]⟩ ∧
    ∃ reason, readReply (Value.object [("entities", .list [.object [("name", .text "api")]]),
        ("relationships", .list [])]).compact = .error (.unparsable reason
          "\x7b\"entities\":[\x7b\"name\":\"api\"\x7d],\"relationships\":[]\x7d") := by
  constructor
  · have names : [normalName " API ", normalName "x", normalName "Db"].filter
        (fun name => decide (2 ≤ name.length)) = ["api", "db"] := by decide +kernel
    have ends : normalName "API" = "api" ∧ normalName "db" = "db" := by decide +kernel
    refine ((readReply_compact (by simp)).1 _).mpr ⟨⟨[⟨[" API ", "x", "Db"], "service"⟩],
      [⟨"API", "db", "uses"⟩]⟩, .object (by decide) rfl rfl
      (.cons (.object rfl (.several [" API ", "x", "Db"]) rfl) .nil) (.cons .list .nil), ?_, ?_⟩
    · simp [names]
    · simp [ends]
  · refine (readReply_compact (by simp)).2 fun body stated => ?_
    cases replyMeaning_iff.mpr stated

end DevlogGraph.Model
