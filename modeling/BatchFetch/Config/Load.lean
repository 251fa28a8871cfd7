import BatchFetch.Config.Decoded
import BatchFetch.Config.Violation
import BatchFetch.Text.Utf8
import BatchFetch.Toml.Document

/-! # Loading a configuration

A configuration is read from a text and checked. The text is that of a file, which may be missing or no
text at all. -/

namespace BatchFetch.Config

/-- Why a configuration cannot be used. -/
inductive Fault where
  | missing
  | notText
  | notDocument
  | misfit
  | invalid (violations : List Violation)
deriving DecidableEq, Repr

/-- The violations of a configuration in one text. -/
def violationsMessage (vs : List Violation) : String :=
  "Validation failed: " ++ String.intercalate ", " (vs.map (·.text))

/-- What is said about a file that cannot be read. -/
def Fault.fileMessage : Fault → String
  | .missing => "IO error: No such file or directory (os error 2)"
  | .notText => "IO error: stream did not contain valid UTF-8"
  | .notDocument | .misfit | .invalid _ => ""

def checked (c : Config) : Except Fault Config :=
  if c.isValid then .ok c else .error (.invalid c.violations)

def ofText (s : String) : Except Fault Config :=
  match Toml.read? s with
  | none => .error .notDocument
  | some members =>
    match ofDocument? members with
    | none => .error .misfit
    | some c => c.checked

/-- The configuration that a file holds, given its bytes; without a file there are none. -/
def ofFile (bytes : Option (List UInt8)) : Except Fault Config :=
  match bytes with
  | none => .error .missing
  | some bytes =>
    match Utf8.decode? bytes with
    | none => .error .notText
    | some cs => ofText (String.ofList cs)

end BatchFetch.Config
