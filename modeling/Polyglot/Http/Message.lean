import Polyglot.Duration
import Polyglot.Http.Url

/-!
# Requests and responses

What goes over the wire to a provider and what comes back. A transport says who answers: it maps
an authority and a request to a response, or to nothing where nobody accepts the connection.

A response takes its time: the head comes after a delay, each piece of the body after a pause, and
so does the end, be it that the body is complete or that the connection closes. Whoever reads it
takes no time, and reads no further once the request has taken longer than it may.
-/

namespace Polyglot

/-- A posted request. -/
structure HttpRequest where
  scheme : Scheme
  target : String
  headers : List (String × String)
  body : String
deriving DecidableEq, Repr

structure HttpResponse where
  status : Nat := 200
  /-- The body in the pieces in which it arrives. -/
  chunks : List (List UInt8) := []
  /-- The connection closes before the body is complete. -/
  truncated : Bool := false
  /-- How long the head takes. -/
  delay : Duration := .zero
  /-- How long each piece of the body keeps one waiting, and the end behind the last of them. There
  is no waiting for those of which nothing is said. -/
  pauses : List Duration := []
deriving DecidableEq, Repr

/-- How a transfer fails. -/
inductive TransferFault where
  /-- It takes longer than it was given. -/
  | timedOut
  /-- There is no connection, or it breaks off. -/
  | broken
deriving DecidableEq, Repr

namespace HttpResponse

def isSuccess (response : HttpResponse) : Bool :=
  200 ≤ response.status && response.status < 300

/-- Statuses whose responses have no body. -/
def isBodiless (response : HttpResponse) : Bool :=
  response.status == 204 || response.status == 304

/-- The pieces of the body. -/
def body (response : HttpResponse) : List (List UInt8) :=
  if response.isBodiless then [] else response.chunks

/-- Does reading the body fail after the last piece? -/
def breaksOff (response : HttpResponse) : Bool :=
  response.truncated && !response.isBodiless

/-- Is the head there in time? -/
def isPrompt (response : HttpResponse) (limit : Duration) : Bool :=
  response.delay.nanoseconds ≤ limit.nanoseconds

/-- The pieces that arrive in time, if the last one did so at `now`, and whether the end does. -/
def receive (limit now : Duration) :
    (pauses : List Duration) → List (List UInt8) → List (List UInt8) × Bool
  | pauses, [] => ([], (now + pauses.headD .zero).nanoseconds ≤ limit.nanoseconds)
  | pauses, chunk :: chunks =>
    if limit.nanoseconds < (now + pauses.headD .zero).nanoseconds then ([], false)
    else
      let rest := receive limit (now + pauses.headD .zero) pauses.tail chunks
      (chunk :: rest.1, rest.2)

/-- The pieces of the body that arrive in time, and whether its end does. Where there is no body
there is nothing to wait for. -/
def received (response : HttpResponse) (limit : Duration) : List (List UInt8) × Bool :=
  if response.isBodiless then ([], true)
  else receive limit response.delay response.pauses response.chunks

theorem receive_of_ended {limit now : Duration} {pauses : List Duration}
    {chunks : List (List UInt8)} (ended : (receive limit now pauses chunks).2 = true) :
    (receive limit now pauses chunks).1 = chunks := by
  induction chunks generalizing now pauses with
  | nil => rfl
  | cons chunk chunks ih =>
    unfold receive at ended ⊢
    split at ended
    · cases ended
    · next inTime =>
      rw [if_neg inTime]
      exact congrArg (chunk :: ·) (ih ended)

/-- If the end of the body arrives in time, then so does everything before it. -/
theorem received_of_ended {response : HttpResponse} {limit : Duration}
    (ended : (response.received limit).2 = true) :
    (response.received limit).1 = response.body := by
  unfold received body at *
  split at ended
  · next bodiless => rw [if_pos bodiless, if_pos bodiless]
  · next bodied =>
    rw [if_neg bodied, if_neg bodied]
    exact receive_of_ended ended

/-- How the transfer of the body ends, if it does not end well. -/
def fault? (response : HttpResponse) (limit : Duration) : Option TransferFault :=
  if !(response.received limit).2 then some .timedOut
  else if response.breaksOff then some .broken
  else none

/-- The body as text, with replacements for what is not; none of it if the transfer fails. -/
def text (response : HttpResponse) (limit : Duration) : String :=
  match response.fault? limit with
  | some _ => ""
  | none => String.ofList (Text.Utf8.decodeLossy response.body.flatten)

end HttpResponse

/-- Who answers a request to an address. -/
abbrev Transport := (authority : String) → HttpRequest → Option HttpResponse

/-- The transport on which nobody answers. -/
def Transport.refusing : Transport := fun _ _ => none

/-- May the text stand as the value of a header? Controls may not, the tab apart. -/
def isHeaderValue (s : String) : Bool :=
  s.toList.all fun c => c == '\t' || (0x20 ≤ c.toNat && c.toNat != 0x7F)

end Polyglot
