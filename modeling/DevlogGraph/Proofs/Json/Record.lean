import DevlogGraph.Json.Record
import DevlogGraph.Proofs.Fallible
import DevlogGraph.Proofs.Json.Skip

/-! Readers against what written values mean to them. A reader that reads a meaning gives it for every
written value that has one, stops right behind the value, and refuses every other value; lists and
records of such readers read what their parts mean. -/
namespace DevlogGraph.Json

open Reader Decimal

/-- The reader gives what a written value means, and fails on a value that means nothing. -/
def Reads (reader : Reader α) (meaning : Value → Option α) : Prop :=
  ∀ value : Value, value.Integral → ∀ rest, Ends rest →
    (reader (value.write ++ rest)).result = (meaning value).map fun found => (found, rest)

/-- A reader that takes the whole text decides what the text is read as. -/
theorem readAll_toOption {reader : Reader α} {text : List Char} {found : Option α}
    (read : (reader text).result = found.map fun value => (value, [])) :
    (readAll reader text).toOption = found := by
  unfold readAll
  revert read
  cases reader text with
  | done value rest =>
    intro read
    cases found with
    | none => cases read
    | some same =>
      cases read
      rfl
  | stuck _ =>
    intro read
    cases found with
    | none => rfl
    | some same => cases read
  | refused _ _ =>
    intro read
    cases found with
    | none => rfl
    | some same => cases read

/-- A whole text reads as what its value means. -/
theorem Reads.readAll (reads : Reads reader meaning) {value : Value} (integral : value.Integral) :
    (readAll reader value.write).toOption = meaning value := by
  have read := reads value integral [] ends_nil
  rw [List.append_nil] at read
  exact readAll_toOption read

@[simp] theorem result_wrongType (expected : String) (text : List Char) :
    (wrongType expected text : Step α).result = none := by
  rw [wrongType, result_settled, result_bind, result_peek, Option.bind_some]
  dsimp only
  generalize text.head? = next
  split
  case h_8 c =>
    split <;> simp
  all_goals simp

/-- A text is read however it is spelled. -/
theorem result_textAs_quoted {meaning : String → Except Schema.Mismatch α} (quoted : Quoted held part)
    (meant : meaning held = .ok found) (expected : String) (rest : List Char) :
    (textAs expected meaning (part ++ rest)).result = some (found, rest) := by
  obtain ⟨body, spelling, opened⟩ := quoted.opens
  rw [opened, textAs, result_settled, result_bind, result_peekVisible_cons (by decide)]
  simp only [Option.bind_some, result_bind, result_advance, result_textTail_spelling spelling, meant]
  rfl

private theorem length_le_strung (first : Bool) (parts : List (List Char))
    (filled : ∀ part ∈ parts, part ≠ []) :
    parts.length ≤ (strung first parts).length := by
  induction parts generalizing first with
  | nil => simp
  | cons part later ih =>
    have own := List.length_pos_iff.mpr (filled part List.mem_cons_self)
    have others := ih false fun other member => filled other (List.mem_cons_of_mem part member)
    rw [strung_cons, List.length_append, List.length_append, List.length_cons]
    omega

private theorem write_ne_nil {value : Value} (integral : value.Integral) : value.write ≠ [] := by
  obtain ⟨c, more, split, _⟩ := write_opens integral
  rw [split]
  exact List.cons_ne_nil c more

private theorem result_itemsWith (reads : Reads reader meaning) {values : List Value}
    (integral : ∀ value ∈ values, value.Integral) (first : Bool) (rest : List Char)
    (enough : values.length < fuel) :
    (itemsWith reader fuel first (strung first (values.map Value.write) ++ ']' :: rest)).result =
      (values.mapM meaning).map fun found => (found, ']' :: rest) := by
  induction values generalizing fuel first with
  | nil =>
    obtain ⟨fuel, rfl⟩ := Nat.exists_eq_succ_of_ne_zero (Nat.ne_of_gt enough)
    rw [List.map_nil, strung_nil, List.nil_append, itemsWith, result_bind, result_hasItem_end]
    rfl
  | cons value later ih =>
    obtain ⟨fuel, rfl⟩ := Nat.exists_eq_succ_of_ne_zero (Nat.ne_zero_of_lt enough)
    have here := integral value List.mem_cons_self
    have behind : Ends (strung false (later.map Value.write) ++ ']' :: rest) :=
      ends_strung _ (.inl rfl) rest
    have head := reads value here _ behind
    have tail := ih (fun other member => integral other (List.mem_cons_of_mem value member)) false
      (Nat.lt_of_succ_lt_succ enough)
    obtain ⟨c, more, split, opens⟩ := write_opens here
    rw [List.map_cons, strung_cons, List.append_assoc, List.append_assoc, itemsWith, result_bind]
    rw [split, List.cons_append] at head ⊢
    rw [result_hasItem_lead opens.opening, Option.bind_some]
    simp only [if_true, result_bind, head, List.mapM_cons]
    cases meaning value with
    | none => rfl
    | some found =>
      simp only [Option.map_some, Option.bind_some, tail]
      cases later.mapM meaning <;> rfl

/-- The items of a list, and its closing bracket. -/
theorem result_listItems (reads : Reads reader meaning) {values : List Value}
    (integral : ∀ value ∈ values, value.Integral) (rest : List Char) :
    (closed listEnding (items reader)
        (strung true (values.map Value.write) ++ ']' :: rest)).result =
      (values.mapM meaning).map fun found => (found, rest) := by
  have size := length_le_strung true (values.map Value.write)
    (List.forall_mem_map.mpr fun value member => write_ne_nil (integral value member))
  have enough : values.length < (strung true (values.map Value.write) ++ ']' :: rest).length + 1 := by
    rw [List.length_map] at size
    rw [List.length_append]
    omega
  rw [result_closed, items, result_itemsWith reads integral true rest enough]
  cases values.mapM meaning <;> rfl

/-- What a list means whose items have a meaning each. -/
def listOf (meaning : Value → Option α) : Value → Option (List α)
  | .list items => items.mapM meaning
  | _ => none

theorem reads_list (reads : Reads reader meaning) : Reads (list reader) (listOf meaning) := by
  intro value integral rest ends
  obtain ⟨c, more, split, opens⟩ := write_opens integral
  have visible := isSpace_of_isOpening opens.opening
  by_cases bracket : c = '['
  · obtain ⟨values, rfl⟩ := opens.list.mp bracket
    cases integral with
    | list all =>
      rw [write_list, list, result_settled, result_bind, result_peekVisible_cons (by decide)]
      exact result_listItems reads all rest
  · have meant : listOf meaning value = none := by
      cases value with
      | list values => exact absurd (opens.list.mpr ⟨values, rfl⟩) bracket
      | _ => rfl
    rw [split, List.cons_append, list, result_settled, result_bind, result_peekVisible_cons visible,
      meant]
    simp

namespace Layout

variable {layout : Layout σ α} {decode : String → σ → Value → Option σ}

/-- Each field reads what its value means, beside what has been read before. -/
def Decodes (layout : Layout σ α) (decode : String → σ → Value → Option σ) : Prop :=
  ∀ field ∈ layout.fields, ∀ state, Reads (field.read state) (decode field.name state)

/-- What a record knows after one more member. -/
def take (layout : Layout σ α) (decode : String → σ → Value → Option σ) (state : σ)
    (member : String × Value) : Option σ :=
  match layout.fields.find? fun field => field.name == member.1 with
  | some field => if field.filled state then none else decode member.1 state member.2
  | none => if layout.closed then none else some state

/-- What a record knows after elements in the order of its fields. -/
def takeElements (decode : String → σ → Value → Option σ) : List (Slot σ) → σ → List Value → Option σ
  | [], state, [] => some state
  | field :: later, state, value :: others =>
      (decode field.name state value).bind fun next => takeElements decode later next others
  | _, _, _ => none

def outcome (layout : Layout σ α) (state : σ) : Option α := (layout.finish state).toOption

theorem outcome_eq_some_iff {state : σ} :
    layout.outcome state = some found ↔ layout.finish state = .ok found :=
  toOption_eq_some_iff

/-- What a value means as a record. -/
def meaning (layout : Layout σ α) (decode : String → σ → Value → Option σ) : Value → Option α
  | .object members => (members.foldlM (layout.take decode) layout.start).bind layout.outcome
  | .list values => (takeElements decode layout.fields layout.start values).bind layout.outcome
  | _ => none

theorem result_finished (state : σ) (text : List Char) :
    (layout.finished state text).result = (layout.outcome state).map fun found => (found, text) := by
  rw [finished, outcome]
  cases layout.finish state <;> rfl

private theorem result_member (decodes : layout.Decodes decode) {value : Value}
    (integral : value.Integral) (ends : Ends rest) (name : String) (state : σ) :
    (layout.member name state (':' :: (value.write ++ rest))).result =
      (layout.take decode state (name, value)).map fun next => (next, rest) := by
  rw [member, take]
  dsimp only
  cases found : layout.fields.find? fun field => field.name == name with
  | none =>
    dsimp only
    split
    · rfl
    · simp [result_colon, result_skipValue integral ends]
  | some field =>
    have known := List.mem_of_find?_eq_some found
    have named : field.name = name := by simpa using List.find?_some found
    dsimp only
    split
    · rfl
    · simp [result_colon, decodes field known state value integral rest ends, named]

theorem result_membersFrom_end (first : Bool) (state : σ) (rest : List Char) :
    (layout.membersFrom (fuel + 1) first state ('\x7d' :: rest)).result =
      (layout.outcome state).map fun found => (found, '\x7d' :: rest) := by
  rw [membersFrom, result_bind, result_hasMember_end]
  exact result_finished state _

/-- A written member is read, and then the others. -/
theorem result_membersFrom_text (member : Member) (later : List (List Char)) (first : Bool)
    (state : σ) (rest : List Char) :
    (layout.membersFrom (fuel + 1) first state
        (strung first (member.text :: later) ++ '\x7d' :: rest)).result =
      (layout.member member.name state
        (':' :: (member.value ++ (strung false later ++ '\x7d' :: rest)))).result.bind fun found =>
          (layout.membersFrom fuel false found.1 found.2).result := by
  rw [strung_cons, List.append_assoc, List.append_assoc, member.text_append, membersFrom, result_bind,
    result_hasMember_lead member.quoted]
  simp only [Option.bind_some, if_true, result_bind, result_key member.quoted]

theorem result_membersFrom_cons (value : String × Value) (later : List (List Char)) (first : Bool)
    (state : σ) (rest : List Char) :
    (layout.membersFrom (fuel + 1) first state
        (strung first (memberText value :: later) ++ '\x7d' :: rest)).result =
      (layout.member value.1 state
        (':' :: (value.2.write ++ (strung false later ++ '\x7d' :: rest)))).result.bind fun found =>
          (layout.membersFrom fuel false found.1 found.2).result :=
  result_membersFrom_text (written value) later first state rest

private theorem result_membersFrom (decodes : layout.Decodes decode)
    {values : List (String × Value)}
    (integral : ∀ member ∈ values, member.2.Integral) (first : Bool) (state : σ) (rest : List Char)
    (enough : values.length < fuel) :
    (layout.membersFrom fuel first state
        (strung first (values.map memberText) ++ '\x7d' :: rest)).result =
      ((values.foldlM (layout.take decode) state).bind layout.outcome).map fun found =>
        (found, '\x7d' :: rest) := by
  induction values generalizing fuel first state with
  | nil =>
    obtain ⟨fuel, rfl⟩ := Nat.exists_eq_succ_of_ne_zero (Nat.ne_of_gt enough)
    rw [List.map_nil, strung_nil, List.nil_append]
    exact result_membersFrom_end first state rest
  | cons value later ih =>
    obtain ⟨fuel, rfl⟩ := Nat.exists_eq_succ_of_ne_zero (Nat.ne_zero_of_lt enough)
    have here := integral value List.mem_cons_self
    have behind : Ends (strung false (later.map memberText) ++ '\x7d' :: rest) :=
      ends_strung _ (.inr rfl) rest
    have tail (next : σ) := ih (fun other member => integral other (List.mem_cons_of_mem value member))
      false next (Nat.lt_of_succ_lt_succ enough)
    rw [List.map_cons, result_membersFrom_cons, result_member decodes here behind, List.foldlM_cons]
    cases layout.take decode state value with
    | none => rfl
    | some next => exact tail next

/-- A member whose name is not that of a field, with any value. -/
structure Unasked (layout : Layout σ α) (member : Member) : Prop where
  unknown : layout.fields.find? (fun field => field.name == member.name) = none
  compact : Compact member.value

private theorem result_member_unasked (lenient : layout.closed = false) {member : Member}
    (unasked : layout.Unasked member) (ends : Ends rest) (state : σ) :
    (layout.member member.name state (':' :: (member.value ++ rest))).result = some (state, rest) := by
  rw [Layout.member, unasked.unknown]
  dsimp only
  rw [lenient, if_neg (by simp)]
  simp [result_colon, unasked.compact.result_skipValue ends]

theorem result_membersFrom_unasked (lenient : layout.closed = false) {members : List Member}
    (unasked : ∀ member ∈ members, layout.Unasked member) (later : List Member) (first : Bool)
    (state : σ) (rest : List Char) :
    (layout.membersFrom (members.length + fuel) first state
        (strung first ((members ++ later).map Member.text) ++ '\x7d' :: rest)).result =
      (layout.membersFrom fuel (first && members.isEmpty) state
        (strung (first && members.isEmpty) (later.map Member.text) ++ '\x7d' :: rest)).result := by
  induction members generalizing first with
  | nil => simp
  | cons member others ih =>
    obtain ⟨here, there⟩ := List.forall_mem_cons.mp unasked
    have ends : Ends (strung false ((others ++ later).map Member.text) ++ '\x7d' :: rest) :=
      ends_strung _ (.inr rfl) rest
    rw [List.length_cons, Nat.add_right_comm, List.cons_append, List.map_cons,
      result_membersFrom_text, result_member_unasked lenient here ends, Option.bind_some, ih there]
    simp

/-- All that is left is passed over. -/
theorem result_membersFrom_rest (lenient : layout.closed = false) {members : List Member}
    (unasked : ∀ member ∈ members, layout.Unasked member) (enough : members.length < fuel) (first : Bool)
    (state : σ) (rest : List Char) :
    (layout.membersFrom fuel first state
        (strung first (members.map Member.text) ++ '\x7d' :: rest)).result =
      (layout.outcome state).map fun found => (found, '\x7d' :: rest) := by
  obtain ⟨more, rfl⟩ := Nat.exists_eq_add_of_lt enough
  have passed : (layout.membersFrom (members.length + (more + 1)) first state
      (strung first ((members ++ []).map Member.text) ++ '\x7d' :: rest)).result = _ :=
    result_membersFrom_unasked lenient unasked [] first state rest
  rw [List.append_nil] at passed
  rw [Nat.add_assoc, passed, List.map_nil, strung_nil]
  exact result_membersFrom_end _ state rest

/-- Elements are read one for each field, and the closing bracket must follow. -/
private theorem result_elementsFrom (decodes : layout.Decodes decode)
    (whole : layout.partly = false)
    {fields : List (Slot σ)} (known : fields ⊆ layout.fields) {values : List Value}
    (integral : ∀ value ∈ values, value.Integral) {index : Nat} (begun : fields = [] → index ≠ 0)
    (state : σ) (rest : List Char) :
    (Json.closed listEnding (layout.elementsFrom fields index state)
        (strung (index == 0) (values.map Value.write) ++ ']' :: rest)).result =
      ((takeElements decode fields state values).bind layout.outcome).map fun found =>
        (found, rest) := by
  rw [result_closed]
  induction fields generalizing index state values with
  | nil =>
    have later : (index == 0) = false := by simpa using begun rfl
    rw [elementsFrom, result_finished, later]
    cases values with
    | nil =>
      rw [List.map_nil, strung_nil, takeElements, Option.bind_some]
      cases layout.outcome state <;> rfl
    | cons value others =>
      rw [List.map_cons, strung_false_cons, takeElements]
      · cases layout.outcome state <;> rfl
      · simp
      · simp
  | cons field later ih =>
    rw [elementsFrom, result_bind]
    cases values with
    | nil =>
      rw [List.map_nil, strung_nil, List.nil_append, result_hasItem_end, takeElements]
      · simp [whole]
      · simp
      · simp
    | cons value others =>
      have here := integral value List.mem_cons_self
      have behind : Ends (strung false (others.map Value.write) ++ ']' :: rest) :=
        ends_strung _ (.inl rfl) rest
      have head := decodes field (known List.mem_cons_self) state value here _ behind
      obtain ⟨c, more, split, opens⟩ := write_opens here
      rw [List.map_cons, strung_cons, List.append_assoc, List.append_assoc, takeElements]
      rw [split, List.cons_append] at head ⊢
      rw [result_hasItem_lead opens.opening]
      simp only [Option.bind_some, if_true, result_bind, head]
      cases decode field.name state value with
      | none => rfl
      | some next =>
        exact ih (fun other member => known (List.mem_cons_of_mem field member))
          (fun other member => integral other (List.mem_cons_of_mem value member)) (fun _ => by simp)
          next

/-- There is enough fuel for the members of an object that is read. -/
theorem result_read_objectText {members : List Member} {found : Option α}
    {rest : List Char} (read : ∀ fuel, members.length < fuel →
      (layout.membersFrom fuel true layout.start
        (strung true (members.map Member.text) ++ '\x7d' :: rest)).result =
          found.map fun value => (value, '\x7d' :: rest)) :
    (layout.read (objectText members ++ rest)).result = found.map fun value => (value, rest) := by
  have size := length_le_strung true (members.map Member.text)
    (List.forall_mem_map.mpr fun member _ => member.text_ne_nil)
  have enough : members.length <
      (strung true (members.map Member.text) ++ '\x7d' :: rest).length + 1 := by
    rw [List.length_map] at size
    rw [List.length_append]
    omega
  rw [objectText_append, Layout.read, result_settled, result_bind, result_peekVisible_cons (by decide)]
  refine (result_closed objectEnding _ _).trans ((congrArg (Option.bind · _) (read _ enough)).trans ?_)
  cases found <;> rfl

theorem result_read_object {values : List (String × Value)} {found : Option α} {rest : List Char}
    (read : ∀ fuel, values.length < fuel →
      (layout.membersFrom fuel true layout.start
        (strung true (values.map memberText) ++ '\x7d' :: rest)).result =
          found.map fun value => (value, '\x7d' :: rest)) :
    (layout.read ((Value.object values).write ++ rest)).result =
      found.map fun value => (value, rest) := by
  rw [write_object_eq]
  refine result_read_objectText fun fuel enough => ?_
  rw [List.length_map] at enough
  rw [List.map_map]
  exact read fuel enough

/-- A record reads what its members or elements mean together. -/
theorem reads (decodes : layout.Decodes decode) (whole : layout.partly = false)
    (some_field : layout.fields ≠ []) : Reads layout.read (layout.meaning decode) := by
  intro value integral rest ends
  obtain ⟨c, more, split, opens⟩ := write_opens integral
  have visible := isSpace_of_isOpening opens.opening
  by_cases bracket : c = '['
  · obtain ⟨values, rfl⟩ := opens.list.mp bracket
    cases integral with
    | list all =>
      have begun : layout.fields = [] → 0 ≠ 0 := fun none_left => absurd none_left some_field
      have read := result_elementsFrom decodes whole (List.Subset.refl _) all begun layout.start rest
      rw [write_list, Layout.read, result_settled, result_bind, result_peekVisible_cons (by decide)]
      exact read
  · by_cases brace : c = '\x7b'
    · obtain ⟨values, rfl⟩ := opens.object.mp brace
      cases integral with
      | object all =>
        exact result_read_object fun fuel enough =>
          result_membersFrom decodes all true layout.start rest enough
    · have meant : layout.meaning decode value = none := by
        cases value with
        | list values => exact absurd (opens.list.mpr ⟨values, rfl⟩) bracket
        | object values => exact absurd (opens.object.mpr ⟨values, rfl⟩) brace
        | _ => rfl
      rw [split, List.cons_append, Layout.read, result_settled, result_bind,
        result_peekVisible_cons visible, meant]
      simp

end Layout

end DevlogGraph.Json
