import LanguageHost.Rpc.Reader
import LanguageHost.Session.Event
import LanguageHost.Session.Launch

namespace LanguageHost

inductive Ticket where
  | handshake
  | shutdown
  | caller
  deriving DecidableEq

inductive Effect where
  | logged (side : Side) (r : LogRecord)
  | launched (generation : Nat) (request : LaunchRequest)
  | submitted (generation : Nat) (m : Outbound) (result : Except TransportError Unit)
  | ended (generation : Nat) (how : Ending)

structure Connections where
  clients : List (Client Ticket) := []
  inbox : List ServerEvent := []
  mailbox : Mailbox := {}
  trace : List Effect := []

namespace Connections

def get? (c : Connections) (generation : Nat) : Option (Client Ticket) :=
  c.clients.find? (·.generation = generation)

def set (c : Connections) (client : Client Ticket) : Connections :=
  { c with
    clients := c.clients.map fun d => if d.generation = client.generation then client else d }

def add (c : Connections) (client : Client Ticket) : Connections :=
  { c with clients := c.clients ++ [client] }

def record (c : Connections) (e : Effect) : Connections := { c with trace := c.trace ++ [e] }

def log (c : Connections) (r : LogRecord) : Connections := c.record (.logged .caller r)

def post (c : Connections) (e : ServerEvent) : Connections := { c with inbox := c.inbox ++ [e] }

def settleCall (c : Connections) (language : LanguageId) (generation : Nat)
    (call : PendingCall Ticket) (outcome : Outcome) : Connections :=
  match call.tag with
  | .handshake => c.post ⟨language, generation, .initializeResponse outcome⟩
  | .shutdown => c.post ⟨language, generation, .shutdownResponse outcome⟩
  | .caller => { c with mailbox := c.mailbox.put ⟨generation, call.id⟩ outcome }

def absorb (c : Connections) (language : LanguageId) (generation : Nat) :
    Emission Ticket → Connections
  | .logged side r => c.record (.logged side r)
  | .submitted m result => c.record (.submitted generation m result)
  | .completed call outcome => c.settleCall language generation call outcome
  | .notified method params => c.post ⟨language, generation, .notification method params⟩
  | .requested id method params => c.post ⟨language, generation, .request id method params⟩
  | .ended error => c.post ⟨language, generation, .closed error⟩

def accept (c : Connections) (client : Client Ticket) (es : List (Emission Ticket)) : Connections :=
  es.foldl (fun c e => c.absorb client.language client.generation e) (c.set client)

def update (c : Connections) (generation : Nat)
    (f : Client Ticket → Client Ticket × List (Emission Ticket)) : Connections :=
  match c.get? generation with
  | none => c
  | some client =>
    let (client, es) := f client
    c.accept client es

def ask {α : Type} (c : Connections) (generation : Nat)
    (f : Client Ticket → Client.Result Ticket (Except RpcError α)) :
    Connections × Except RpcError α :=
  match c.get? generation with
  | none => (c, .error .cancelled)
  | some client =>
    let (client, es, result) := f client
    (c.accept client es, result)

def call (c : Connections) (generation : Nat) (method : String) (params : Json) (t : Ticket) :
    Connections × Except RpcError Nat :=
  c.ask generation fun client => client.call method params t

def notify (c : Connections) (generation : Nat) (method : String) (params : Json) :
    Connections × Except RpcError Unit :=
  c.ask generation fun client => client.notify method params

def reply (c : Connections) (generation : Nat) (id : RequestId) (r : Reply) :
    Connections × Except RpcError Unit :=
  c.ask generation fun client => client.reply id r

def receive (c : Connections) (generation : Nat) (signals : List Frame.Signal) : Connections :=
  c.update generation fun client => client.receive signals

def endOutput (c : Connections) (generation : Nat) : Connections :=
  c.update generation Client.finish

/-- Takes what a new server has put out before it was sent anything. -/
def overhear (c : Connections) (generation : Nat) (o : Overture) : Connections :=
  let c := c.receive generation o.signals
  if o.ended then c.endOutput generation else c

def finish (c : Connections) (generation : Nat) (how : Ending) : Connections :=
  ((c.update generation Client.close).record (.ended generation how)).endOutput generation

def setPlan (c : Connections) (generation : Nat) (plan : Nat → Verdict) : Connections :=
  c.update generation fun client => ({ client with sink := client.sink.map ({ · with plan }) }, [])

def isPending (c : Connections) (name : CallName) : Bool :=
  match c.get? name.generation with
  | some client => client.pending.any (·.id = name.id)
  | none => false

def collect (c : Connections) (name : CallName) : Connections × Option Outcome :=
  let (mailbox, outcome) := c.mailbox.take name (c.isPending name)
  ({ c with mailbox }, outcome)

end Connections

end LanguageHost
