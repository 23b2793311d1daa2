import LanguageHost.Wire.Frame
import LanguageHost.Wire.Message

namespace LanguageHost

inductive RpcError where
  | transport (e : TransportError)
  | server (e : ErrorObject)
  | cancelled
  | decode

namespace RpcError

def message : RpcError → String
  | transport e => "transport failure: " ++ e.message
  | server e => "server returned error " ++ toString e.code ++ ": " ++ e.message
  | cancelled => "request cancelled because the connection was closed"
  | decode => "failed to decode response: unexpected shape"

end RpcError

abbrev Outcome := Except RpcError Json

def Response.outcome (r : Response) : Outcome :=
  match r.error with
  | some e => .error (.server e)
  | none => .ok r.result

structure CallName where
  generation : Nat
  id : Nat
  deriving DecidableEq

structure Mailbox where
  outcomes : List (CallName × Outcome) := []

namespace Mailbox

def put (m : Mailbox) (name : CallName) (outcome : Outcome) : Mailbox :=
  ⟨m.outcomes ++ [(name, outcome)]⟩

def get? (m : Mailbox) (name : CallName) : Option Outcome :=
  (m.outcomes.find? (·.1 = name)).map Prod.snd

/-- Takes the outcome of a call, which is there only once: who comes again finds the call cancelled.
Nothing is taken while the call is pending. -/
def take (m : Mailbox) (name : CallName) (pending : Bool) : Mailbox × Option Outcome :=
  match m.get? name with
  | some outcome => (⟨m.outcomes.filter (·.1 ≠ name)⟩, some outcome)
  | none => (m, if pending then none else some (.error .cancelled))

end Mailbox

end LanguageHost
