import DevlogGraph.Model.Extractor
import DevlogGraph.Service.Address
import DevlogGraph.Service.Answer
import DevlogGraph.Service.Response
import DevlogGraph.Settings.Basic
import DevlogGraph.Settings.Environment

/-! A model service that is reached over the network. -/
namespace DevlogGraph

namespace Service

structure Client where
  address : Url

/-- What is said of an inquiry that got no response. The user is sent apart from the address. -/
def unsent (url : Url) : String :=
  let shown := String.ofList { url with user := [] }.text
  s!"error sending request for url ({shown})"

def undecoded : String := "error decoding response body"

/-- The names in a list of models that is all there. -/
def modelNames? (response : Response) : Option (List String) :=
  if response.complete then
    (Text.decodeUtf8? response.body).bind fun body =>
      (Json.readAll modelsLayout.read body).toOption
  else none

namespace Client

def of (settings : ModelSettings) : Except Failure Client := do
  let address ← Service.address settings.url
  pure ⟨address⟩

def endpoint (client : Client) (name : String) : Url :=
  client.address.join ["api".toList, name.toList]

def models (client : Client) (network : Network) : Except Failure (List String) :=
  let url := client.endpoint "tags"
  match network ⟨url, none⟩ with
  | none => .error (.unavailable s!"Ollama probe failed: {unsent url}")
  | some response =>
      if response.succeeded then
        match modelNames? response with
        | some names => .ok names
        | none => .error (.unavailable s!"Failed to read model list: {undecoded}")
      else .error (.unavailable s!"Ollama probe returned {response.statusLine}")

def generate (client : Client) (network : Network) (request : Request) : Except Failure String :=
  let url := client.endpoint "generate"
  match network ⟨url, some request⟩ with
  | none => .error (.transport s!"Ollama request failed: {unsent url}")
  | some response =>
      if response.succeeded then
        match response.text? with
        | some body => readChunks body.toList
        | none => .error (.transport s!"Failed to read Ollama response: {undecoded}")
      else
        let body := response.text?.getD ""
        .error (.transport s!"Ollama error {response.statusLine}: {body}")

/-- Waiting for the network is not part of the virtual time. -/
def service (client : Client) (network : Network) : Service where
  models := ⟨0, client.models network⟩
  reply request := ⟨0, client.generate network request⟩

end Client

end Service

namespace Model.Extractor

/-- An extractor that asks the configured service. -/
def ofSettings (settings : ModelSettings) (network : Service.Network) :
    Except Failure Extractor := do
  let client ← Service.Client.of settings
  pure ⟨settings.modelOrDefault, settings.probeTimeoutMs.toNat, client.service network⟩

/-- An extractor for one model, at the service that the environment names. -/
def ofEnvironment (model : String) (environment : Environment) (network : Service.Network) :
    Except Failure Extractor :=
  let settings : ModelSettings := { model := model }
  ofSettings { settings with url := (environment "OLLAMA_HOST").getD settings.url } network

end Model.Extractor

end DevlogGraph
