import DevlogGraph.Failure
import DevlogGraph.Json.Record
import DevlogGraph.Text.Blank
import DevlogGraph.Text.Lines

/-! What the service writes: a list of models, and a generated text in one or more chunks, each a
JSON record on a line of its own. -/
namespace DevlogGraph.Service

open Json Schema Text

/-- A record of which one field is read. -/
def singleLayout (title name : String) (missing : Except Mismatch α) (read : Reader α) :
    Layout (Option α) α where
  title := title
  sized := s!"{title} with 1 element"
  fields := [{
    name := name
    filled := Option.isSome
    read := fun _ => do
      let value ← read
      pure (some value) }]
  closed := false
  partly := missing.toOption.isSome
  start := none
  finish
    | some value => .ok value
    | none => missing

def modelLayout : Layout (Option String) String :=
  singleLayout "struct ModelTag" "name" (.error (.missing "name")) text

def modelsLayout : Layout (Option (List String)) (List String) :=
  singleLayout "struct TagsResponse" "models" (.ok []) (list modelLayout.read)

def chunkLayout : Layout (Option String) String :=
  singleLayout "struct GenerateChunk" "response" (.ok "") text

def readChunk (line : List Char) : Except Failure String :=
  (readAll chunkLayout.read line).mapError fun found =>
    .transport s!"Malformed Ollama response envelope: {found.message line}"

/-- The texts of all chunks, one after another. Blank lines hold no chunk. -/
def readChunks (body : List Char) : Except Failure String := do
  let texts ← ((lines body).filter fun line => !(trim line).isEmpty).mapM readChunk
  pure (String.join texts)

end DevlogGraph.Service
