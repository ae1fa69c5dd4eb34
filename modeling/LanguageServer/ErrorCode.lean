import LanguageServer.Fault

/-! The error codes of the protocol, and the failures that carry them. Codes outside the table read as
    `unknown`. An exception is a failure with a code: a handler raises one, and a fault in a payload becomes
    one with the code `parseError`. -/

namespace LanguageServer

/-- The known error codes. -/
inductive ErrorCode where
  | parseError
  | invalidRequest
  | methodNotFound
  | invalidParams
  | internalError
  | serverNotInitialized
  | unknown
  | requestCancelled
deriving DecidableEq

namespace ErrorCode

/-- Every known code. -/
def all : List ErrorCode :=
  [parseError, invalidRequest, methodNotFound, invalidParams, internalError, serverNotInitialized,
    unknown, requestCancelled]

/-- The number of a code. -/
def code : ErrorCode → Int32
  | parseError => -32700
  | invalidRequest => -32600
  | methodNotFound => -32601
  | invalidParams => -32602
  | internalError => -32603
  | serverNotInitialized => -32002
  | unknown => -32001
  | requestCancelled => -32800

/-- The name of a code. -/
def name : ErrorCode → String
  | parseError => "ParseError"
  | invalidRequest => "InvalidRequest"
  | methodNotFound => "MethodNotFound"
  | invalidParams => "InvalidParams"
  | internalError => "InternalError"
  | serverNotInitialized => "ServerNotInitialized"
  | unknown => "UnknownErrorCode"
  | requestCancelled => "RequestCancelled"

/-- The code of a number; numbers outside the table are unknown. -/
def ofCode (code : Int32) : ErrorCode := (all.find? (·.code = code)).getD unknown

/-- The code of a name. -/
def ofName? (name : String) : Option ErrorCode := all.find? (·.name = name)

/-- The number lies in the range left to servers. -/
def isServerError (code : Int32) : Bool := -32099 ≤ code && code ≤ -32000

/-- The name of a code with its number. -/
def text (c : ErrorCode) : String := s!"{c.name} (" ++ toString c.code.toInt ++ ")"

end ErrorCode

/-- A failure with an error code, and data of any form if there is some. -/
structure Exception where
  code : ErrorCode
  message : String
  data : Option Json
deriving DecidableEq

namespace Exception

/-- A failure without data. -/
def new (code : ErrorCode) (message : String) : Exception := ⟨code, message, none⟩

/-- The failure with data. -/
def withData (e : Exception) (data : Json) : Exception := { e with data := some data }

/-- The params of a request cannot be used. -/
def invalidParams (message : String) : Exception := new .invalidParams message

/-- The server failed. -/
def internal (message : String) : Exception := new .internalError message

/-- The request was cancelled. -/
def cancelled (message : String) : Exception := new .requestCancelled message

/-- The failure that a fault in a payload leads to. -/
def ofFault (fault : Fault) : Exception :=
  new .parseError ("parse error: '" ++ fault.message ++ "'")

/-- The message of a failure with its code. -/
def text (e : Exception) : String := e.message ++ " (" ++ e.code.text ++ ")"

end Exception

example : (Exception.ofFault .unknownPayload).text =
    "parse error: 'unknown JSON-RPC message payload' (ParseError (-32700))" := by decide +kernel

end LanguageServer
