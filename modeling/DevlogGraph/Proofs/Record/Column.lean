import Mathlib.Data.List.Forall2
import Mathlib.Data.List.Nodup
import DevlogGraph.Proofs.Distinct
import DevlogGraph.Proofs.Json.Record
import DevlogGraph.Record.Findings

/-! Records whose fields are kept in optional places of their own. An object states such a record if
each of its members fills an empty place with something its value means; what order the members come
in does not matter. -/
namespace DevlogGraph.Record

open Json Reader

/-- The values of the members of one name, in their order. -/
def valuesOf (name : String) (members : List (String × Value)) : List Value :=
  (members.filter fun member => member.1 == name).map Prod.snd

private theorem valuesOf_cons (name : String) (member : String × Value)
    (later : List (String × Value)) :
    valuesOf name (member :: later) =
      if member.1 = name then member.2 :: valuesOf name later else valuesOf name later := by
  unfold valuesOf
  by_cases own : member.1 = name <;> simp [own]

/-- What a place holds after the values of all members of its name: it is filled at most once. -/
inductive Filled (meaning : Value → Option β) : Option β → List Value → Option β → Prop where
  | kept (held : Option β) : Filled meaning held [] held
  | read {value : Value} (meant : meaning value = some found) :
      Filled meaning none [value] (some found)

section Filled

variable {β : Type} {meaning : Value → Option β} {value : Value} {found : β} {held after : Option β}
  {later : List Value}

private theorem filled_nil : Filled meaning held [] after ↔ after = held := by
  constructor
  · rintro ⟨⟩
    rfl
  · rintro rfl
    exact .kept after

private theorem filled_some :
    Filled meaning (some found) later after ↔ later = [] ∧ after = some found := by
  constructor
  · rintro ⟨⟩
    exact ⟨rfl, rfl⟩
  · rintro ⟨rfl, rfl⟩
    exact .kept _

private theorem filled_cons : Filled meaning held (value :: later) after ↔
    held = none ∧ ∃ found, meaning value = some found ∧ Filled meaning (some found) later after := by
  simp only [filled_some]
  constructor
  · intro filled
    cases filled with
    | read meant => exact ⟨rfl, _, meant, rfl, rfl⟩
  · rintro ⟨rfl, found, meant, rfl, rfl⟩
    exact .read meant

theorem filled_none_some {values : List Value} : Filled meaning none values (some found) ↔
    ∃ value, values = [value] ∧ meaning value = some found := by
  constructor
  · intro filled
    cases filled with
    | read meant => exact ⟨_, rfl, meant⟩
  · rintro ⟨value, rfl, meant⟩
    exact .read meant

end Filled

/-- A field with a place of its own in the state, and a reader that reads what its values mean. -/
structure Column (σ : Type) where
  {β : Type}
  name : String
  get : σ → Option β
  put : σ → β → σ
  reader : Reader β
  meaning : Value → Option β
  reads : Reads reader meaning

namespace Column

variable {σ : Type}

def slot (column : Column σ) : Slot σ := Record.slot column.name column.get column.put column.reader

private theorem reads_slot (column : Column σ) (state : σ) :
    Reads (column.slot.read state) fun value => (column.meaning value).map (column.put state) := by
  intro value integral rest ends
  change ((column.reader >>= fun found => pure (column.put state found)) _).result = _
  rw [result_bind, column.reads value integral rest ends]
  dsimp only
  cases column.meaning value <;> rfl

end Column

/-- The layout has these columns, none of which touches another. -/
structure Tabular (layout : Layout σ α) (columns : List (Column σ)) : Prop where
  fields : layout.fields = columns.map Column.slot
  whole : layout.partly = false
  distinct : (columns.map Column.name).Nodup
  get_put : ∀ column ∈ columns, ∀ state value, column.get (column.put state value) = some value
  get_put_other : ∀ column ∈ columns, ∀ other ∈ columns, column.name ≠ other.name →
    ∀ state value, column.get (other.put state value) = column.get state
  ext : ∀ state after, (∀ column ∈ columns, column.get after = column.get state) → after = state

/-- What a member of some name does to the state. -/
def decode (columns : List (Column σ)) (name : String) (state : σ) (value : Value) : Option σ :=
  (columns.find? fun column => column.name == name).bind fun column =>
    (column.meaning value).map (column.put state)

/-- The place of the column holds what the value means. -/
def Holds (after : σ) (column : Column σ) (value : Value) : Prop :=
  ∃ found, column.meaning value = some found ∧ column.get after = some found

namespace Tabular

variable {σ α : Type} {layout : Layout σ α} {columns : List (Column σ)}
  (tabular : Tabular layout columns)
include tabular

private theorem eq_of_name (member : column ∈ columns) (present : other ∈ columns)
    (same : other.name = column.name) : other = column :=
  List.inj_on_of_nodup_map tabular.distinct present member same

private theorem find_of_mem (member : column ∈ columns) :
    columns.find? (fun other => other.name == column.name) = some column :=
  find_of_mem_of_nodup tabular.distinct member

theorem decodes : layout.Decodes (decode columns) := by
  intro field known state
  rw [tabular.fields] at known
  obtain ⟨column, member, rfl⟩ := List.mem_map.mp known
  have same : decode columns column.slot.name state =
      fun value => (column.meaning value).map (column.put state) := by
    funext value
    rw [decode]
    change (columns.find? fun other => other.name == column.name).bind _ = _
    rw [tabular.find_of_mem member, Option.bind_some]
  rw [same]
  exact column.reads_slot state

private theorem take_of_mem (member : column ∈ columns) (state : σ) (value : Value) :
    layout.take (decode columns) state (column.name, value) =
      if (column.get state).isSome then none else (column.meaning value).map (column.put state) := by
  have found := tabular.find_of_mem member
  have slots : layout.fields.find? (fun field => field.name == column.name) = some column.slot := by
    rw [tabular.fields, List.find?_map]
    exact congrArg (Option.map Column.slot) found
  rw [Layout.take, decode, slots, found]
  rfl

private theorem take_of_not_mem (unknown : name ∉ columns.map Column.name) (state : σ)
    (value : Value) :
    layout.take (decode columns) state (name, value) = if layout.closed then none else some state := by
  have slots : layout.fields.find? (fun field => field.name == name) = none := by
    rw [tabular.fields, List.find?_eq_none]
    rintro field known
    obtain ⟨column, member, rfl⟩ := List.mem_map.mp known
    exact fun same => unknown (List.mem_map.mpr ⟨column, member, eq_of_beq same⟩)
  rw [Layout.take, slots]

/-- A member with a name of its own fills the place of that name and leaves the others alone. -/
private theorem filled_cons_iff (member : column ∈ columns) {state after : σ} {value : Value}
    {later : List (String × Value)} :
    (∀ other ∈ columns, Filled other.meaning (other.get state)
      (valuesOf other.name ((column.name, value) :: later)) (other.get after)) ↔
    column.get state = none ∧ ∃ found, column.meaning value = some found ∧
      ∀ other ∈ columns, Filled other.meaning (other.get (column.put state found))
        (valuesOf other.name later) (other.get after) := by
  have own : valuesOf column.name ((column.name, value) :: later) =
      value :: valuesOf column.name later := by
    rw [valuesOf_cons, if_pos rfl]
  have apart {other : Column σ} (different : other.name ≠ column.name) :
      valuesOf other.name ((column.name, value) :: later) = valuesOf other.name later := by
    rw [valuesOf_cons, if_neg fun same => different same.symm]
  constructor
  · intro filled
    have here := filled column member
    rw [own, filled_cons] at here
    obtain ⟨empty, found, meant, kept⟩ := here
    refine ⟨empty, found, meant, fun other present => ?_⟩
    by_cases same : other.name = column.name
    · obtain rfl := tabular.eq_of_name member present same
      rwa [tabular.get_put other present]
    · rw [tabular.get_put_other other present column member same, ← apart same]
      exact filled other present
  · rintro ⟨empty, found, meant, filled⟩ other present
    by_cases same : other.name = column.name
    · obtain rfl := tabular.eq_of_name member present same
      have kept := filled other present
      rw [tabular.get_put other present] at kept
      rw [own, filled_cons]
      exact ⟨empty, found, meant, kept⟩
    · have kept := filled other present
      rwa [tabular.get_put_other other present column member same, ← apart same] at kept

private theorem members_iff {members : List (String × Value)} {state after : σ} :
    members.foldlM (layout.take (decode columns)) state = some after ↔
      (∀ column ∈ columns,
        Filled column.meaning (column.get state) (valuesOf column.name members) (column.get after)) ∧
      (layout.closed = true → ∀ member ∈ members, member.1 ∈ columns.map Column.name) := by
  induction members generalizing state with
  | nil =>
    simp only [List.foldlM_nil, valuesOf, List.filter_nil, List.map_nil, filled_nil]
    constructor
    · intro same
      cases same
      exact ⟨fun _ _ => rfl, by simp⟩
    · rintro ⟨kept, _⟩
      rw [tabular.ext state after kept]
      rfl
  | cons member later ih =>
    obtain ⟨name, value⟩ := member
    rw [List.foldlM_cons, List.forall_mem_cons]
    by_cases known : name ∈ columns.map Column.name
    · obtain ⟨column, inside, rfl⟩ := List.mem_map.mp known
      rw [tabular.take_of_mem inside, tabular.filled_cons_iff inside]
      cases column.get state with
      | some held => simp
      | none =>
        cases column.meaning value with
        | none => simp
        | some found => simpa [known] using ih
    · have skipped : (∀ column ∈ columns, Filled column.meaning (column.get state)
            (valuesOf column.name ((name, value) :: later)) (column.get after)) ↔
          ∀ column ∈ columns, Filled column.meaning (column.get state) (valuesOf column.name later)
            (column.get after) := by
        refine forall₂_congr fun column member => ?_
        rw [valuesOf_cons, if_neg]
        rintro rfl
        exact known (List.mem_map_of_mem member)
      rw [tabular.take_of_not_mem known, skipped]
      cases closed : layout.closed with
      | true => simp [known]
      | false => simpa [closed] using ih

/-- Elements fill the places of their columns and leave the others alone. -/
private theorem elements_iff {some_columns : List (Column σ)} (known : some_columns ⊆ columns)
    (distinct : (some_columns.map Column.name).Nodup) {state after : σ} {values : List Value} :
    Layout.takeElements (decode columns) (some_columns.map Column.slot) state values = some after ↔
      List.Forall₂ (Holds after) some_columns values ∧
      ∀ column ∈ columns, column.name ∉ some_columns.map Column.name →
        column.get after = column.get state := by
  induction some_columns generalizing state values with
  | nil =>
    cases values with
    | nil =>
      simp only [List.map_nil, Layout.takeElements, Option.some.injEq, List.Forall₂.nil, true_and,
        List.not_mem_nil, not_false_eq_true, forall_const]
      exact ⟨fun same _ _ => same ▸ rfl, fun kept => (tabular.ext state after kept).symm⟩
    | cons value later => simp [Layout.takeElements]
  | cons column others ih =>
    cases values with
    | nil => simp [Layout.takeElements]
    | cons value later =>
      have member := known List.mem_cons_self
      obtain ⟨new, distinct⟩ := List.nodup_cons.mp distinct
      have taken : Layout.takeElements (decode columns) ((column :: others).map Column.slot) state
          (value :: later) = ((column.meaning value).map (column.put state)).bind fun next =>
            Layout.takeElements (decode columns) (others.map Column.slot) next later := by
        rw [List.map_cons, Layout.takeElements]
        change (decode columns column.name state value).bind _ = _
        rw [decode, tabular.find_of_mem member, Option.bind_some]
      rw [taken, List.forall₂_cons]
      cases meant : column.meaning value with
      | none => simp [Holds, meant]
      | some found =>
        rw [Option.map_some, Option.bind_some, ih (fun other inside =>
          known (List.mem_cons_of_mem column inside)) distinct]
        constructor
        · rintro ⟨each, kept⟩
          have own := kept column member new
          rw [tabular.get_put column member] at own
          refine ⟨⟨⟨found, meant, own⟩, each⟩, fun other present absent => ?_⟩
          rw [List.map_cons, List.mem_cons, not_or] at absent
          rw [kept other present absent.2, tabular.get_put_other other present column member absent.1]
        · rintro ⟨⟨⟨held, same, own⟩, each⟩, kept⟩
          refine ⟨each, fun other present absent => ?_⟩
          by_cases alike : other.name = column.name
          · obtain rfl := tabular.eq_of_name member present alike
            rw [tabular.get_put other present, own, ← same, meant]
          · rw [tabular.get_put_other other present column member alike]
            exact kept other present (by simp [alike, absent])

theorem reads (some_column : columns ≠ []) :
    Reads layout.read (layout.meaning (decode columns)) := by
  refine Layout.reads tabular.decodes tabular.whole ?_
  rw [tabular.fields]
  simpa using some_column

/-- What an object states: every place is filled from the members of its name. -/
theorem meaning_object_iff {members : List (String × Value)} :
    layout.meaning (decode columns) (.object members) = some found ↔
      ∃ after, layout.finish after = .ok found ∧
        (∀ column ∈ columns, Filled column.meaning (column.get layout.start)
          (valuesOf column.name members) (column.get after)) ∧
        (layout.closed = true → ∀ member ∈ members, member.1 ∈ columns.map Column.name) := by
  simp only [Layout.meaning, Option.bind_eq_some_iff, tabular.members_iff, Layout.outcome_eq_some_iff]
  exact exists_congr fun after => and_comm

/-- What a list states: one element for each column, in their order. -/
theorem meaning_list_iff {values : List Value} :
    layout.meaning (decode columns) (.list values) = some found ↔
      ∃ after, layout.finish after = .ok found ∧ List.Forall₂ (Holds after) columns values := by
  simp only [Layout.meaning, Option.bind_eq_some_iff, tabular.fields,
    tabular.elements_iff (List.Subset.refl _) tabular.distinct, Layout.outcome_eq_some_iff]
  refine exists_congr fun after => ?_
  rw [and_comm]
  refine and_congr_right fun _ => and_iff_left ?_
  exact fun column member absent => absurd (List.mem_map_of_mem member) absent

end Tabular

end DevlogGraph.Record
