import LanguageServer.Json.Reader

/-! Why a payload or a part of it is refused. A fault names its cause; the wording is in `Reason.message`
    and `Fault.message` alone. -/

namespace LanguageServer

/-- What is wrong with a value that should have the form of an interface. -/
inductive Reason where
  /-- The value is not of one of the expected types. -/
  | wrongType (expected : List String)
  /-- The value is none of the listed ones. -/
  | notOneOf (names : List String)
  /-- A property that has to be there is not. -/
  | missing (key : String)
  /-- A property is of none of the expected kinds. -/
  | wrongProperty (key : String) (expected : List String)
  /-- A property is there that must not be. -/
  | unexpected (key : String)
  /-- Two properties are there that exclude each other. -/
  | exclusive (first second : String)
  /-- A key that should be a URI is not. -/
  | badUri (uri key : String)
deriving DecidableEq

namespace Reason

/-- Alternatives in quotes: commas between them, and "or" before the last. -/
def alternatives : List String → String
  | [] => ""
  | [a] => s!"'{a}'"
  | [a, b] => s!"'{a}' or '{b}'"
  | a :: rest => s!"'{a}', " ++ alternatives rest

/-- The wording of a reason. -/
def message : Reason → String
  | wrongType expected => "invalid data type, shall be " ++ alternatives expected
  | notOneOf names => "invalid data type, shall be one of [" ++ ", ".intercalate names ++ "]"
  | missing key => s!"missing property '{key}'"
  | wrongProperty key expected => s!"invalid property '{key}', shall be " ++ alternatives expected
  | unexpected key => s!"unexpected property '{key}'"
  | exclusive first second => s!"properties '{first}' and '{second}' are mutually exclusive"
  | badUri uri key => s!"invalid document URI '{uri}' in '{key}'"

end Reason

/-- Why a payload or a part of it is refused. -/
inductive Fault where
  /-- The text is no JSON. -/
  | malformed (fault : Json.ReadFault)
  /-- The protocol version is not the supported one. -/
  | unsupportedVersion (found : String)
  /-- A message with neither an id nor a method. -/
  | unknownPayload
  /-- A value does not have the form of the named interface. -/
  | invalid (interface : String) (reason : Reason)
deriving DecidableEq

namespace Fault

/-- The wording of a fault. -/
def message : Fault → String
  | malformed fault => "malformed JSON: " ++ fault.detail
  | unsupportedVersion found => s!"unsupported JSON-RPC version '{found}'"
  | unknownPayload => "unknown JSON-RPC message payload"
  | invalid interface reason => s!"invalid data for interface '{interface}': " ++ reason.message

/-- The interface that a value was held against. -/
def interface? : Fault → Option String
  | invalid interface _ => some interface
  | _ => none

end Fault

example : (Fault.invalid "R" (.wrongProperty "p" ["object", "array", "null"])).message =
    "invalid data for interface 'R': invalid property 'p', shall be 'object', 'array' or 'null'" :=
  by decide +kernel

end LanguageServer
