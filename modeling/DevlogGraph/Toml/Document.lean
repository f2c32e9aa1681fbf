import DevlogGraph.Toml.Value

/-! Documents: tables under headers, with the rules on what may be defined twice. -/
namespace DevlogGraph.Toml

open Scanner

/-- Walk down a path, adding the tables that are not there, and act on the table at its end. In a
dotted key, a table with a header of its own must not be passed. -/
def descend (dotted : Bool) (act : Table → Except Conflict (Table × β)) (passed : List Key) :
    List Key → Table → Except Conflict (Table × β)
  | [], table => act table
  | key :: later, table =>
      let passed := passed ++ [key]
      match lookupEntry key.name table.entries with
      | none => do
          let (inner, answer) ← descend dotted act passed later
            { isImplicit := true, isDotted := dotted }
          pure ({ table with entries := table.entries ++ [(key, .table inner)] }, answer)
      | some (.table inner) =>
          if dotted && !inner.isImplicit then .error (.duplicate key.name none)
          else do
            let (inner, answer) ← descend dotted act passed later inner
            pure ({ table with entries := replaceEntry key.name (.table inner) table.entries },
              answer)
      | some (.tables items) => do
          let (inner, answer) ← descend dotted act passed later (items.getLast?.getD {})
          pure ({ table with
            entries := replaceEntry key.name (.tables (items.dropLast ++ [inner])) table.entries },
            answer)
      | some other => .error (.notATable passed other.typeName)

/-- A document up to some line: the tables that are complete, and the one being filled. -/
structure State where
  root : Table := {}
  current : Table := { span := some ⟨0, 0⟩ }
  isArray : Bool := false
  path : List Key := []

/-- Add a pair to the table at the end of its path. -/
def insertPair (pair : Pair) (owner : List Key) (table : Table) :
    Except Conflict (Table × Unit) :=
  if table.isDotted == pair.path.isEmpty then .error (.duplicate pair.key.name none)
  else match lookupEntry pair.key.name table.entries with
    | some _ => .error (.duplicate pair.key.name (some owner))
    | none => .ok ({ table with entries := table.entries ++ [(pair.key, pair.value)] }, ())

/-- The bytes of a table reach to its last value. -/
def stretch (span : Option Span) (value : Node) : Option Span :=
  match span, value.span? with
  | some span, some last => some ⟨span.start, last.stop⟩
  | span, _ => span

def State.addPair (state : State) (pair : Pair) : Except Conflict State := do
  let current := { state.current with span := stretch state.current.span pair.value }
  let (current, ()) ← descend true (insertPair pair state.path) [] pair.path current
  pure { state with current := current }

def duplicateAt (path : List Key) : Conflict :=
  .duplicate ((path.getLast?.map fun key => keyText key.name).getD "") (some path.dropLast)

/-- Put a complete table where its header says. -/
def place (path : List Key) (isArray : Bool) (table parent : Table) :
    Except Conflict (Table × Unit) :=
  match path.getLast? with
  | none => .ok (table, ())
  | some key =>
      match lookupEntry key.name parent.entries, isArray with
      | none, true =>
          .ok ({ parent with entries := parent.entries ++ [(key, .tables [table])] }, ())
      | some (.tables items), true =>
          .ok ({ parent with
            entries := replaceEntry key.name (.tables (items ++ [table])) parent.entries }, ())
      | none, false =>
          .ok ({ parent with entries := parent.entries ++ [(key, .table table)] }, ())
      | some (.table old), false =>
          if old.isImplicit then
            .ok ({ parent with entries := replaceEntry key.name (.table table) parent.entries }, ())
          else .error (duplicateAt path)
      | _, _ => .error (duplicateAt path)

/-- Complete the table that is being filled. -/
def State.complete (state : State) : Except Conflict State := do
  let (root, ()) ← descend false (place state.path state.isArray state.current) []
    state.path.dropLast state.root
  pure { root := root, current := {}, isArray := false, path := [] }

/-- Take out the table that a header continues, if an earlier header has passed through it. -/
def takeTable (path : List Key) (parent : Table) : Except Conflict (Table × Table) :=
  match path.getLast? with
  | none => .ok (parent, {})
  | some key =>
      match lookupEntry key.name parent.entries with
      | none => .ok (parent, {})
      | some (.table old) =>
          if old.isImplicit && !old.isDotted then
            .ok ({ parent with entries := parent.entries.filter (·.1.name != key.name) }, old)
          else .error (duplicateAt path)
      | some _ => .error (duplicateAt path)

/-- The table under a header. -/
def State.openTable (state : State) (path : List Key) (span : Span) : Except Conflict State := do
  let state ← state.complete
  let (root, old) ← descend false (takeTable path) [] path.dropLast state.root
  pure {
    root := root
    current := { entries := old.entries, span := some span }
    isArray := false
    path := path }

/-- Check that a header adds to an array of tables. -/
def checkTables (path : List Key) (parent : Table) : Except Conflict (Table × Unit) :=
  match path.getLast?.bind fun key => lookupEntry key.name parent.entries with
  | none =>
      .ok ({ parent with
        entries := parent.entries ++ path.getLast?.toList.map fun key => (key, .tables []) }, ())
  | some (.tables _) => .ok (parent, ())
  | some _ => .error (duplicateAt path)

/-- Another table of the array under a header. -/
def State.openArray (state : State) (path : List Key) (span : Span) : Except Conflict State := do
  let state ← state.complete
  let (root, ()) ← descend false (checkTables path) [] path.dropLast state.root
  pure { root := root, current := { span := some span }, isArray := true, path := path }

/-- A pair on a line of its own. -/
def pairLine (state : State) : Scanner State :=
  meaning (do
    let path ← keyPath
    must do
      let _ ← equals
      let _ ← blanks
      let found ← value depthLimit
      expecting ["newline", "`#`"] lineTrailing
      pure (pairOf path found)) fun
    | some pair => (state.addPair pair).mapError Conflict.message
    | none => .ok state

/-- A header between its brackets, with the brackets' bytes, up to the end of its line. -/
def headerBetween (left right : String) : Scanner (List Key × Span) := do
  let header ← withSpan do
    word left
    let path ← must keyPath
    expecting ["`.`", s!"`{right}`"] (must (word right))
    pure path
  lineTrailingExpected
  pure header

def header (state : State) : Scanner State :=
  labelled "table header" fun cursor =>
    match cursor.rest with
    | '[' :: '[' :: _ =>
        meaning (headerBetween "[[" "]]")
          (fun (path, span) => (state.openArray path span).mapError Conflict.message) cursor
    | _ :: _ :: _ =>
        meaning (headerBetween "[" "]")
          (fun (path, span) => (state.openTable path span).mapError Conflict.message) cursor
    | _ => .missed ⟨cursor, [], none⟩

/-- One line, or what is left of it. -/
def expression (state : State) : Scanner State := do
  let state ← (do
    match ← peek with
    | '#' => must do
        comment
        lineEnding
        pure state
    | '[' => must (header state)
    | '\n' => do
        newline
        pure state
    | '\r' => do
        newline
        pure state
    | _ => must (pairLine state))
  let _ ← blanks
  pure state

/-- Lines until one is missed. The fuel bounds their number. -/
def expressions : Nat → State → Scanner State
  | 0, state => pure state
  | fuel + 1, state => fun cursor =>
      match expression state cursor with
      | .found state after => expressions fuel state after
      | .missed _ => .found state cursor
      | .broken problem => .broken problem

def byteOrderMark : Char := '\uFEFF'

def document : Scanner State := do
  let _ ← optional (char byteOrderMark)
  let _ ← blanks
  let state ← fun cursor => expressions (cursor.rest.length + 1) {} cursor
  endOfText
  pure state

/-- What is wrong with a document, and which bytes show it. -/
structure Error where
  message : String
  span : Option Span

/-- One character at the place of a problem. -/
def Problem.span (problem : Problem) : Span :=
  ⟨problem.place.offset, problem.place.advance.offset⟩

def Problem.error (problem : Problem) : Error := ⟨problem.message, some problem.span⟩

/-- The root table of a document. -/
def parse (text : List Char) : Except Error Table :=
  match document ⟨0, text⟩ with
  | .found state _ =>
      match state.complete with
      | .ok state => .ok state.root
      | .error conflict => .error ⟨conflict.message, none⟩
  | .missed problem => .error problem.error
  | .broken problem => .error problem.error

end DevlogGraph.Toml
