import LanguageHost.Editor.Language
import LanguageHost.LogRecord
import LanguageHost.Rpc.Outcome
import LanguageHost.Wire.Frame

/-!
A connection to one server, seen from the side that calls. Calls are numbered from one on and kept
in a table until they complete; closing the connection completes all of them. A call is made in
three steps: its entry is reserved, its frame is submitted, and the entry is withdrawn if the frame
did not get through.

Every operation gives back what it brought about, in order.
-/

namespace LanguageHost

inductive Side where
  | caller
  | reader
  deriving DecidableEq

structure PendingCall (κ : Type) where
  id : Nat
  method : String
  tag : κ

/-- What happens on a connection. -/
inductive Emission (κ : Type) where
  | logged (side : Side) (r : LogRecord)
  | submitted (m : Outbound) (result : Except TransportError Unit)
  | completed (call : PendingCall κ) (outcome : Outcome)
  | notified (method : String) (params : Json)
  | requested (id : RequestId) (method : String) (params : Json)
  | ended (error : Option TransportError)

structure Client (κ : Type) where
  language : LanguageId
  generation : Nat
  traced : Bool := false
  nextId : Nat := 1
  pending : List (PendingCall κ) := []
  closed : Bool := false
  sink : Option Sink
  phase : Frame.Phase := .start
  reading : Bool := true

namespace Client

variable {κ : Type}

abbrev Result (κ : Type) (α : Type) := Client κ × List (Emission κ) × α

def start (language : LanguageId) (generation : Nat) (traced : Bool) (plan : Nat → Verdict) :
    Client κ :=
  { language, generation, traced, sink := some { plan } }

def logTarget : String := "tessera_lsp::rpc"

def languageField (c : Client κ) : String × String := ("language", c.language.name)

def generationField (c : Client κ) : String × String := ("generation", toString c.generation)

def note (side : Side) (level : LogLevel) (message : String) (fields : List (String × String)) :
    Emission κ :=
  .logged side ⟨level, logTarget, message, fields⟩

def traceNote (c : Client κ) (side : Side) (direction : String) (text : List Char) :
    List (Emission κ) :=
  if c.traced then
    [note side .trace "rpc message"
      [c.languageField, ("direction", direction), ("body", String.ofList text)]]
  else []

def paramsOf : Json → Option Json
  | .null => none
  | j => some j

def submit (c : Client κ) (m : Outbound) : Result κ (Except TransportError Unit) :=
  let trace := c.traceNote .caller "send" m.chars
  match c.sink with
  | none => (c, trace ++ [.submitted m (.error .unexpectedEnd)], .error .unexpectedEnd)
  | some s =>
    let (s, result) := s.send m.bytes
    ({ c with sink := some s }, trace ++ [.submitted m result], result)

/-- Takes the next number, and an entry in the table unless the connection is closed. -/
def reserve (c : Client κ) (method : String) (tag : κ) : Client κ × Option Nat :=
  let id := c.nextId
  let c := { c with nextId := id + 1 }
  if c.closed then (c, none) else ({ c with pending := c.pending ++ [⟨id, method, tag⟩] }, some id)

def withdraw (c : Client κ) (id : Nat) : Client κ :=
  { c with pending := c.pending.filter (·.id ≠ id) }

def submitCall (c : Client κ) (id : Nat) (method : String) (params : Json) :
    Result κ (Except TransportError Unit) :=
  let sending := note .caller .debug "sending request"
    [c.languageField, c.generationField, ("method", method)]
  let (c, es, result) := c.submit (.request id method (paramsOf params))
  (c, sending :: es, result)

def call (c : Client κ) (method : String) (params : Json) (tag : κ) :
    Result κ (Except RpcError Nat) :=
  match c.reserve method tag with
  | (c, none) => (c, [], .error .cancelled)
  | (c, some id) =>
    match c.submitCall id method params with
    | (c, es, .ok ()) => (c, es, .ok id)
    | (c, es, .error e) => (c.withdraw id, es, .error (.transport e))

def notify (c : Client κ) (method : String) (params : Json) : Result κ (Except RpcError Unit) :=
  let sending := note .caller .debug "sending notification"
    [c.languageField, c.generationField, ("method", method)]
  let (c, es, result) := c.submit (.notification method (paramsOf params))
  (c, sending :: es, result.mapError .transport)

def reply (c : Client κ) (id : RequestId) (r : Reply) : Result κ (Except RpcError Unit) :=
  let (c, es, result) := c.submit (.reply id r)
  (c, es, result.mapError .transport)

def drain (c : Client κ) (e : RpcError) : Client κ × List (Emission κ) :=
  ({ c with closed := true, pending := [] }, c.pending.map (.completed · (.error e)))

def close (c : Client κ) : Client κ × List (Emission κ) :=
  let cancelling := if c.pending.isEmpty then [] else
    [note .caller .debug "cancelling pending calls"
      [c.languageField, c.generationField, ("cancelled", toString c.pending.length)]]
  let (c, completions) := c.drain .cancelled
  ({ c with sink := none }, cancelling ++ completions)

end Client

end LanguageHost
