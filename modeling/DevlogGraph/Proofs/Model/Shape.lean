import Mathlib.Data.List.Forall2
import DevlogGraph.Model.Reply
import DevlogGraph.Proofs.Json.View
import DevlogGraph.Proofs.Record.Column

/-! The shape of a reply: which JSON values state names, an entity, a relationship or a whole reply,
and that the readers of the reply read exactly these. A record is stated by an object that has each of
its fields once, in any order, or by a list with one element for each field. -/
namespace DevlogGraph.Model

open Json Record

/-- Exactly one member has the name, and this is its value. -/
def Once (name : String) (members : List (String × Value)) (held : Value) : Prop :=
  valuesOf name members = [held]

/-- One name, or several. -/
inductive StatesNames : Value → List String → Prop where
  | one (name : String) : StatesNames (.text name) [name]
  | several (found : List String) : StatesNames (.list (found.map .text)) found

inductive StatesEntity : Value → ReplyEntity → Prop where
  | object {members : List (String × Value)} {held : Value} (name : Once "name" members held)
      (stated : StatesNames held found) (type : Once "type" members (.text kind)) :
      StatesEntity (.object members) ⟨found, kind⟩
  | list {held : Value} (stated : StatesNames held found) :
      StatesEntity (.list [held, .text kind]) ⟨found, kind⟩

inductive StatesRelationship : Value → ReplyRelationship → Prop where
  | object {members : List (String × Value)} (source : Once "from" members (.text first))
      (target : Once "to" members (.text second)) (type : Once "type" members (.text kind)) :
      StatesRelationship (.object members) ⟨first, second, kind⟩
  | list : StatesRelationship (.list [.text first, .text second, .text kind]) ⟨first, second, kind⟩

inductive StatesReply : Value → ReplyBody → Prop where
  | object {members : List (String × Value)}
      (known : ∀ member ∈ members, member.1 = "entities" ∨ member.1 = "relationships")
      (entities : Once "entities" members (.list nodes))
      (relationships : Once "relationships" members (.list arrows))
      (each_entity : List.Forall₂ StatesEntity nodes found)
      (each_relationship : List.Forall₂ StatesRelationship arrows edges) :
      StatesReply (.object members) ⟨found, edges⟩
  | list (each_entity : List.Forall₂ StatesEntity nodes found)
      (each_relationship : List.Forall₂ StatesRelationship arrows edges) :
      StatesReply (.list [.list nodes, .list arrows]) ⟨found, edges⟩

theorem textOf_eq_some_iff : textOf? found = some held ↔ found = .text held := by
  cases found <;> simp [textOf?]

theorem mapM_eq_some_iff {meaning : α → Option β} {list : List α} {found : List β} :
    list.mapM meaning = some found ↔ List.Forall₂ (meaning · = some ·) list found := by
  induction list generalizing found with
  | nil => simp [eq_comm]
  | cons first later ih =>
    rw [List.mapM_cons, List.forall₂_cons_left_iff]
    simp only [Option.bind_eq_bind, Option.bind_eq_some_iff, ih, Option.pure_def, Option.some.injEq]
    constructor
    · rintro ⟨head, meant, tail, each, rfl⟩
      exact ⟨head, tail, meant, each, rfl⟩
    · rintro ⟨head, tail, meant, each, rfl⟩
      exact ⟨head, meant, tail, each, rfl⟩

theorem mapM_textOf_eq_some_iff {values : List Value} :
    values.mapM textOf? = some found ↔ values = found.map .text := by
  simp only [mapM_eq_some_iff, textOf_eq_some_iff]
  rw [← List.forall₂_eq_eq_eq, List.forall₂_map_right_iff]

theorem namesOf_eq_some_iff {held : Value} : namesOf? held = some found ↔ StatesNames held found := by
  constructor
  · intro meant
    cases held with
    | text name =>
      cases meant
      exact .one name
    | list values =>
      obtain rfl := mapM_textOf_eq_some_iff.mp meant
      exact .several found
    | _ => cases meant
  · rintro (name | found)
    · rfl
    · exact mapM_textOf_eq_some_iff.mpr rfl

private theorem textOf_eq_none {found : Value} (no_text : ∀ held, found ≠ .text held) :
    textOf? found = none := by
  cases found with
  | text held => exact absurd rfl (no_text held)
  | _ => rfl

private theorem namesOf_eq_none {found : Value} (no_text : ∀ held, found ≠ .text held)
    (no_list : ∀ items, found ≠ .list items) : namesOf? found = none := by
  cases found with
  | text held => exact absurd rfl (no_text held)
  | list items => exact absurd rfl (no_list items)
  | _ => rfl

private theorem reads_text : Reads text textOf? := by
  intro value integral rest ends
  obtain ⟨c, more, split, opens⟩ := write_opens integral
  have visible := isSpace_of_isOpening opens.opening
  by_cases quote : c = '"'
  · obtain ⟨held, rfl⟩ := opens.text.mp quote
    exact result_textAs_quoted (quoted_writeText held) rfl "a string" rest
  · have meant := textOf_eq_none fun held same => quote (opens.text.mpr ⟨held, same⟩)
    rw [split, List.cons_append, text, textAs, result_settled, result_bind,
      result_peekVisible_cons visible, meant]
    simp

private theorem reads_viewed_text (depth : Nat) : Reads (viewed textOf? (value depth)) textOf? := by
  intro value integral rest ends
  obtain ⟨inner, same⟩ := value_eq_valueWith depth
  obtain ⟨c, more, split, opens⟩ := write_opens integral
  rw [result_viewed, same]
  by_cases quote : c = '"'
  · obtain ⟨held, rfl⟩ := opens.text.mp quote
    rw [Value.write, result_valueWith_text]
    rfl
  · have meant := textOf_eq_none fun held same => quote (opens.text.mpr ⟨held, same⟩)
    rw [split, List.cons_append, meant]
    cases read : (valueWith inner (c :: (more ++ rest))).result with
    | none => rfl
    | some found =>
      have unlike := opening_of_valueWith (isSpace_of_isOpening opens.opening) read
      rw [Option.bind_some, textOf_eq_none fun held same => quote (unlike.1 held same)]
      rfl

private theorem reads_viewed_names (depth : Nat) :
    Reads (viewed namesOf? (value (depth + 1))) namesOf? := by
  intro held integral rest ends
  obtain ⟨c, more, split, opens⟩ := write_opens integral
  rw [result_viewed, value]
  by_cases quote : c = '"'
  · obtain ⟨name, rfl⟩ := opens.text.mp quote
    rw [Value.write, result_valueWith_text]
    rfl
  · by_cases bracket : c = '['
    · obtain ⟨values, rfl⟩ := opens.list.mp bracket
      cases integral with
      | list all =>
        rw [write_list, result_valueWith_list, Option.bind_map]
        exact (result_closedItems_viewed textOf? (value depth) _).symm.trans
          (result_listItems (reads_viewed_text depth) all rest)
    · have meant := namesOf_eq_none (fun name same => quote (opens.text.mpr ⟨name, same⟩))
        fun values same => bracket (opens.list.mpr ⟨values, same⟩)
      rw [split, List.cons_append, meant]
      cases read : (valueWith (some (value depth)) (c :: (more ++ rest))).result with
      | none => rfl
      | some found =>
        have unlike := opening_of_valueWith (isSpace_of_isOpening opens.opening) read
        rw [Option.bind_some, namesOf_eq_none (fun name same => quote (unlike.1 name same))
          fun values same => bracket (unlike.2 values same)]
        rfl

private theorem reads_names : Reads names namesOf? := by
  intro held integral rest ends
  -- the depth is a successor, so that there is room for a list
  rw [← reads_viewed_names 123 held integral rest ends, result_viewed, names, result_bind]
  congr 1
  funext found
  cases namesOf? found.1 <;> rfl

def entityColumns : List (Column ReplyEntityParts) := [
  { name := "name"
    get := (·.names)
    put parts value := { parts with names := some value }
    reader := names
    meaning := namesOf?
    reads := reads_names },
  { name := "type"
    get := (·.kind)
    put parts value := { parts with kind := some value }
    reader := text
    meaning := textOf?
    reads := reads_text }]

private theorem entity_tabular : Tabular entityLayout entityColumns where
  fields := rfl
  whole := rfl
  distinct := by decide
  get_put := by simp [entityColumns]
  get_put_other := by simp [entityColumns]
  ext := by
    rintro ⟨names, kind⟩ ⟨others, another⟩ same
    simpa [entityColumns] using same

def entityMeaning : Value → Option ReplyEntity := entityLayout.meaning (decode entityColumns)

theorem entity_finish_iff {parts : ReplyEntityParts} {raw : ReplyEntity} :
    entityLayout.finish parts = .ok raw ↔ parts = ⟨some raw.names, some raw.kind⟩ := by
  obtain ⟨_ | names, _ | kind⟩ := parts
  all_goals exact ⟨fun same => by cases same <;> rfl, fun same => by cases same <;> rfl⟩

private theorem filled_iff_once {β : Type} {meaning : Value → Option β}
    {members : List (String × Value)}
    {found : β} : Filled meaning none (valuesOf name members) (some found) ↔
      ∃ held, Once name members held ∧ meaning held = some found :=
  filled_none_some

theorem entityMeaning_iff {held : Value} {raw : ReplyEntity} :
    entityMeaning held = some raw ↔ StatesEntity held raw := by
  obtain ⟨found, kind⟩ := raw
  cases held with
  | object members =>
    have places : (∀ column ∈ entityColumns, Filled column.meaning (column.get entityLayout.start)
          (valuesOf column.name members) (column.get ⟨some found, some kind⟩)) ↔
        (∃ held, Once "name" members held ∧ StatesNames held found) ∧
          Once "type" members (.text kind) := by
      simp [entityColumns, entityLayout, filled_iff_once, namesOf_eq_some_iff, textOf_eq_some_iff]
    rw [entityMeaning, entity_tabular.meaning_object_iff]
    simp only [entity_finish_iff, exists_eq_left, places]
    constructor
    · rintro ⟨⟨⟨held, name, stated⟩, type⟩, _⟩
      exact .object name stated type
    · intro states
      cases states with
      | object name stated type => exact ⟨⟨⟨_, name, stated⟩, type⟩, fun closed => by cases closed⟩
  | list values =>
    have places : List.Forall₂ (Holds (⟨some found, some kind⟩ : ReplyEntityParts)) entityColumns
        values ↔ ∃ held, StatesNames held found ∧ values = [held, .text kind] := by
      simp [entityColumns, List.forall₂_cons_left_iff, Holds, namesOf_eq_some_iff, textOf_eq_some_iff]
    rw [entityMeaning, entity_tabular.meaning_list_iff]
    simp only [entity_finish_iff, exists_eq_left, places]
    constructor
    · rintro ⟨held, stated, rfl⟩
      exact .list stated
    · intro states
      cases states with
      | list stated => exact ⟨_, stated, rfl⟩
  | _ =>
    constructor
    · intro meant
      cases meant
    · intro states
      cases states

def relationshipColumns : List (Column ReplyRelationshipParts) := [
  { name := "from"
    get := (·.source)
    put parts value := { parts with source := some value }
    reader := text
    meaning := textOf?
    reads := reads_text },
  { name := "to"
    get := (·.target)
    put parts value := { parts with target := some value }
    reader := text
    meaning := textOf?
    reads := reads_text },
  { name := "type"
    get := (·.kind)
    put parts value := { parts with kind := some value }
    reader := text
    meaning := textOf?
    reads := reads_text }]

private theorem relationship_tabular : Tabular relationshipLayout relationshipColumns where
  fields := rfl
  whole := rfl
  distinct := by decide
  get_put := by simp [relationshipColumns]
  get_put_other := by simp [relationshipColumns]
  ext := by
    rintro ⟨source, target, kind⟩ ⟨source', target', kind'⟩ same
    simpa [relationshipColumns] using same

def relationshipMeaning : Value → Option ReplyRelationship :=
  relationshipLayout.meaning (decode relationshipColumns)

theorem relationship_finish_iff {parts : ReplyRelationshipParts} {raw : ReplyRelationship} :
    relationshipLayout.finish parts = .ok raw ↔
      parts = ⟨some raw.source, some raw.target, some raw.kind⟩ := by
  obtain ⟨_ | source, _ | target, _ | kind⟩ := parts
  all_goals exact ⟨fun same => by cases same <;> rfl, fun same => by cases same <;> rfl⟩

theorem relationshipMeaning_iff {held : Value} {raw : ReplyRelationship} :
    relationshipMeaning held = some raw ↔ StatesRelationship held raw := by
  obtain ⟨source, target, kind⟩ := raw
  cases held with
  | object members =>
    have places : (∀ column ∈ relationshipColumns,
          Filled column.meaning (column.get relationshipLayout.start) (valuesOf column.name members)
            (column.get ⟨some source, some target, some kind⟩)) ↔
        Once "from" members (.text source) ∧ Once "to" members (.text target) ∧
          Once "type" members (.text kind) := by
      simp [relationshipColumns, relationshipLayout, filled_iff_once, textOf_eq_some_iff]
    rw [relationshipMeaning, relationship_tabular.meaning_object_iff]
    simp only [relationship_finish_iff, exists_eq_left, places]
    constructor
    · rintro ⟨⟨first, second, type⟩, _⟩
      exact .object first second type
    · intro states
      cases states with
      | object first second type => exact ⟨⟨first, second, type⟩, fun closed => by cases closed⟩
  | list values =>
    have places : List.Forall₂ (Holds (⟨some source, some target, some kind⟩ : ReplyRelationshipParts))
        relationshipColumns values ↔ values = [.text source, .text target, .text kind] := by
      simp [relationshipColumns, List.forall₂_cons_left_iff, Holds, textOf_eq_some_iff]
    rw [relationshipMeaning, relationship_tabular.meaning_list_iff]
    simp only [relationship_finish_iff, exists_eq_left, places]
    constructor
    · rintro rfl
      exact .list
    · intro states
      cases states with
      | list => rfl
  | _ =>
    constructor
    · intro meant
      cases meant
    · intro states
      cases states

private theorem reads_entity : Reads entityLayout.read entityMeaning :=
  entity_tabular.reads (by simp [entityColumns])

private theorem reads_relationship : Reads relationshipLayout.read relationshipMeaning :=
  relationship_tabular.reads (by simp [relationshipColumns])

def replyColumns : List (Column ReplyBodyParts) := [
  { name := "entities"
    get := (·.entities)
    put parts value := { parts with entities := some value }
    reader := list entityLayout.read
    meaning := listOf entityMeaning
    reads := reads_list reads_entity },
  { name := "relationships"
    get := (·.relationships)
    put parts value := { parts with relationships := some value }
    reader := list relationshipLayout.read
    meaning := listOf relationshipMeaning
    reads := reads_list reads_relationship }]

private theorem reply_tabular : Tabular replyLayout replyColumns where
  fields := rfl
  whole := rfl
  distinct := by decide
  get_put := by simp [replyColumns]
  get_put_other := by simp [replyColumns]
  ext := by
    rintro ⟨entities, relationships⟩ ⟨entities', relationships'⟩ same
    simpa [replyColumns] using same

def replyMeaning : Value → Option ReplyBody := replyLayout.meaning (decode replyColumns)

theorem reads_reply : Reads replyLayout.read replyMeaning :=
  reply_tabular.reads (by simp [replyColumns])

theorem reply_finish_iff {parts : ReplyBodyParts} {raw : ReplyBody} :
    replyLayout.finish parts = .ok raw ↔ parts = ⟨some raw.entities, some raw.relationships⟩ := by
  obtain ⟨_ | entities, _ | relationships⟩ := parts
  all_goals exact ⟨fun same => by cases same <;> rfl, fun same => by cases same <;> rfl⟩

theorem listOf_eq_some_iff {meaning : Value → Option α} {held : Value} {found : List α} :
    listOf meaning held = some found ↔
      ∃ values, held = .list values ∧ List.Forall₂ (meaning · = some ·) values found := by
  cases held <;> simp [listOf, mapM_eq_some_iff]

theorem replyMeaning_iff {held : Value} {raw : ReplyBody} :
    replyMeaning held = some raw ↔ StatesReply held raw := by
  obtain ⟨found, edges⟩ := raw
  cases held with
  | object members =>
    have places : (∀ column ∈ replyColumns, Filled column.meaning (column.get replyLayout.start)
          (valuesOf column.name members) (column.get ⟨some found, some edges⟩)) ↔
        (∃ nodes, Once "entities" members (.list nodes) ∧ List.Forall₂ StatesEntity nodes found) ∧
          ∃ arrows, Once "relationships" members (.list arrows) ∧
            List.Forall₂ StatesRelationship arrows edges := by
      simp [replyColumns, replyLayout, filled_iff_once, listOf_eq_some_iff, entityMeaning_iff,
        relationshipMeaning_iff]
    have names (name : String) :
        name ∈ replyColumns.map Column.name ↔ name = "entities" ∨ name = "relationships" := by
      simp [replyColumns]
    rw [replyMeaning, reply_tabular.meaning_object_iff]
    simp only [reply_finish_iff, exists_eq_left, places, names]
    constructor
    · rintro ⟨⟨⟨nodes, first, each_entity⟩, arrows, second, each_relationship⟩, known⟩
      exact .object (known rfl) first second each_entity each_relationship
    · intro states
      cases states with
      | object known first second each_entity each_relationship =>
        exact ⟨⟨⟨_, first, each_entity⟩, _, second, each_relationship⟩, fun _ => known⟩
  | list values =>
    have places : List.Forall₂ (Holds (⟨some found, some edges⟩ : ReplyBodyParts)) replyColumns values ↔
        ∃ nodes, List.Forall₂ StatesEntity nodes found ∧ ∃ arrows,
          List.Forall₂ StatesRelationship arrows edges ∧ values = [.list nodes, .list arrows] := by
      simp [replyColumns, List.forall₂_cons_left_iff, Holds, listOf_eq_some_iff, entityMeaning_iff,
        relationshipMeaning_iff]
    rw [replyMeaning, reply_tabular.meaning_list_iff]
    simp only [reply_finish_iff, exists_eq_left, places]
    constructor
    · rintro ⟨nodes, each_entity, arrows, each_relationship, rfl⟩
      exact .list each_entity each_relationship
    · intro states
      cases states with
      | list each_entity each_relationship => exact ⟨_, each_entity, _, each_relationship, rfl⟩
  | _ =>
    constructor
    · intro meant
      cases meant
    · intro states
      cases states

end DevlogGraph.Model
