import DevlogGraph.Event
import DevlogGraph.Failure
import DevlogGraph.Ledger.Render

/-! Write-back to a file. -/
namespace DevlogGraph.Ledger

/-- The bytes of a file, if there is one. -/
abbrev File := Option ByteArray

/-- The text of a file. -/
def readText (file : File) : Except String String :=
  match file with
  | none => .error "No such file or directory (os error 2)"
  | some bytes =>
      match String.fromUTF8? bytes with
      | some text => .ok text
      | none => .error "stream did not contain valid UTF-8"

/-- What a write-back answers, leaves in the file and tells the log. -/
structure Written where
  outcome : Except Failure Nat
  file : File
  events : List Event := []

/-- Append the missing edges; the answer is their number. Without edges the file is not touched,
and without missing ones it stays as it is. -/
def writeBack (path : String) (file : File) (edges : List Relationship) : Written :=
  if edges.isEmpty then ⟨.ok 0, file, []⟩
  else match readText file with
    | .error reason => ⟨.error (.io reason), file, []⟩
    | .ok content =>
        let appended := (missing content edges).length
        match render content edges with
        | some updated => ⟨.ok appended, some updated.toUTF8, [.writtenBack path appended]⟩
        | none => ⟨.ok appended, file, []⟩

end DevlogGraph.Ledger
