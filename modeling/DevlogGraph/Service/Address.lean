import DevlogGraph.Failure
import DevlogGraph.Text.Blank
import DevlogGraph.Text.Within
import DevlogGraph.Url

/-! The address of the model service, as a user writes it. -/
namespace DevlogGraph.Service

open Text

/-- What stands between a scheme and the rest of an address. -/
def schemeMark : List Char := [':', '/', '/']

/-- An address without a scheme is one of `http`. -/
def withScheme (written : List Char) : List Char :=
  if holds schemeMark written then written else Url.Scheme.http.text ++ schemeMark ++ written

/-- The address that is written, without the blanks around it. -/
def address (written : String) : Except Failure Url :=
  let inner := trim written.toList
  let shown := String.ofList inner
  if inner.isEmpty then .error (.clientInit "Ollama URL is not configured")
  else match Url.read (withScheme inner) with
    | .ok url => .ok url
    | .error (.malformed fault) =>
        .error (.clientInit s!"Invalid Ollama URL {shown}: {fault.message}")
    | .error .foreign => .error (.clientInit s!"Unsupported Ollama URL {shown}")

end DevlogGraph.Service
