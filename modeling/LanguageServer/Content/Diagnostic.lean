import LanguageServer.Content.Position

/-! Diagnostics: errors, warnings and hints about a range of a document. -/

namespace LanguageServer

open Content

/-- How grave a diagnostic is. -/
inductive DiagnosticSeverity where
  | error
  | warning
  | information
  | hint
deriving DecidableEq

namespace DiagnosticSeverity

/-- Every value, in the order of the numbers. -/
def all : List DiagnosticSeverity := [.error, .warning, .information, .hint]

/-- The number that stands for a value. -/
def number : DiagnosticSeverity → Int
  | .error => 1
  | .warning => 2
  | .information => 3
  | .hint => 4

/-- The name of a value. -/
def name : DiagnosticSeverity → String
  | .error => "Error"
  | .warning => "Warning"
  | .information => "Information"
  | .hint => "Hint"

/-- The value that a number stands for. -/
def ofNumber? (n : Int) : Option DiagnosticSeverity := all.find? (·.number = n)

/-- The place of a value among all. -/
def place : DiagnosticSeverity → Nat
  | .error => 0
  | .warning => 1
  | .information => 2
  | .hint => 3

/-- The form of `DiagnosticSeverity`. -/
def schema : Schema := .enumeration "DiagnosticSeverity" (all.map fun x => (x.name, x.number))

end DiagnosticSeverity

instance : Content DiagnosticSeverity where
  schema := DiagnosticSeverity.schema
  pack x := ⟨x.place, by cases x <;> decide⟩
  unpack i := DiagnosticSeverity.all.get i
  unpack_pack x := by cases x <;> rfl
  pack_unpack := (by decide : ∀ i : Fin 4, (⟨(DiagnosticSeverity.all.get i).place, _⟩ : Fin 4) = i)

/-- An error, a warning or a hint about a range of a document. The range and the message are checked
    first. -/
structure Diagnostic where
  range : Range
  severity : Option DiagnosticSeverity := none
  code : Option Code := none
  /-- What found it, such as a compiler. -/
  source : Option String := none
  message : String
deriving DecidableEq

/-- The form of `Diagnostic`. -/
def Diagnostic.schema : Schema :=
  .record "Diagnostic" <|
    .required "range" (.nested Range.schema) <|
    .optionalLate "severity" (.nested DiagnosticSeverity.schema) <|
    .optionalLate "code" (.plain .stringOrInteger) <|
    .optionalLate "source" (.plain .string) <|
    .required "message" (.plain .string) <|
    .nil

instance : Content Diagnostic where
  schema := Diagnostic.schema
  pack x := (pack x.range, packSome x.severity, x.code, x.source, x.message, ())
  unpack := fun (range, severity, code, source, message, _) =>
    { range := unpack range, severity := unpackSome severity, code, source, message }
  unpack_pack _ := by simp
  pack_unpack := fun (_, _) => by simp; rfl

namespace Diagnostic

/-- A diagnostic with a message and nothing more. -/
def new (range : Range) (message : String) : Diagnostic := { range, message }

/-- The diagnostic with a severity. -/
def withSeverity (d : Diagnostic) (severity : DiagnosticSeverity) : Diagnostic :=
  { d with severity := some severity }

/-- The diagnostic with a code. -/
def withCode (d : Diagnostic) (code : Code) : Diagnostic := { d with code := some code }

/-- The diagnostic with its source. -/
def withSource (d : Diagnostic) (source : String) : Diagnostic := { d with source := some source }

end Diagnostic

/-- The diagnostics of a document. -/
structure PublishDiagnosticsParams where
  uri : Uri
  diagnostics : List Diagnostic
deriving DecidableEq

/-- The form of `PublishDiagnosticsParams`. -/
def PublishDiagnosticsParams.schema : Schema :=
  .record "PublishDiagnosticsParams" <|
    .required "uri" (.plain .uri) <|
    .required "diagnostics" (.many Diagnostic.schema) <|
    .nil

instance : Content PublishDiagnosticsParams where
  schema := PublishDiagnosticsParams.schema
  pack x := (x.uri, packMany x.diagnostics, ())
  unpack := fun (uri, diagnostics, _) => { uri, diagnostics := unpackMany diagnostics }
  unpack_pack _ := by simp
  pack_unpack := fun (_, _) => by simp; rfl

end LanguageServer
