import Polyglot.Duration
import Polyglot.Http.Message
import Polyglot.Number.Single

/-!
# Backends

A backend answers a prompt with a stream of texts that may end in an error. It is a function of
the prompt and the options; what it sends on the way is part of its answer.
-/

namespace Polyglot

inductive BackendError where
  /-- The provider answered with a status other than success. -/
  | status (code : Nat) (body : String)
  /-- The request took longer than it was given. -/
  | timeout (limit : Duration)
  /-- No connection, no proper request, or a body that breaks off. -/
  | http
  /-- An error that the provider reports inside the stream. -/
  | provider (report : String)
deriving DecidableEq, Repr

namespace BackendError

/-- The error that a failed transfer comes to. -/
def ofFault (limit : Duration) : TransferFault → BackendError
  | .timedOut => timeout limit
  | .broken => http

def message : BackendError → String
  | status code body => "Provider returned HTTP " ++ toString code ++ ": " ++ body
  | timeout limit => "Request timed out after " ++ limit.text
  | http => "HTTP error"
  | provider report => "Provider error: " ++ report

end BackendError

/-- How a model is to answer one prompt. -/
structure GenerationOptions where
  temperature : Single := .ofRat (7 / 10)
  maxTokens : UInt32 := 4000
  timeout : Duration := .ofSeconds 120
deriving DecidableEq

/-- A text or the error that ends the stream. -/
abbrev StreamItem := Except BackendError String

/-- What came back for a prompt, and the requests that reached a server for it. -/
structure Answer where
  items : List StreamItem
  requests : List HttpRequest := []

structure Backend where
  /-- The provider's name for the model. -/
  name : String
  answer : (prompt : String) → GenerationOptions → Answer

end Polyglot
