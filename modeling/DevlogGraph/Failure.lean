import DevlogGraph.Settings.Error
import DevlogGraph.Text.Excerpt

/-! Why an extraction or a write-back fails. -/
namespace DevlogGraph

inductive Failure where
  /-- The address of the model service cannot be used. -/
  | clientInit (reason : String)
  | unavailable (reason : String)
  | transport (reason : String)
  /-- The reply is not what was asked for; a beginning of it is kept. -/
  | unparsable (reason beginning : String)
  | cancelled
  | settings (error : SettingsError)
  | io (reason : String)
  deriving DecidableEq

/-- How many characters of an unusable reply are kept. -/
def excerptLimit : Nat := 200

def Failure.ofReply (reason reply : String) : Failure :=
  .unparsable reason (Text.excerpt excerptLimit reply)

def Failure.message : Failure → String
  | clientInit reason => s!"Failed to initialise model client: {reason}"
  | unavailable reason => s!"Model service unavailable: {reason}"
  | transport reason => s!"Model transport error: {reason}"
  | unparsable reason beginning =>
      s!"Failed to parse model response: {reason} (response: {beginning})"
  | cancelled => "Extraction cancelled"
  | settings error => s!"Configuration error: {error.message}"
  | io reason => s!"I/O error: {reason}"

end DevlogGraph
