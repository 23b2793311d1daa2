import LanguageHost.Rpc.Client
import LanguageHost.Rpc.Reader

namespace LanguageHost

inductive Waiter where
  | collector
  | callback (number : Nat)
  deriving DecidableEq

structure Conversation where
  client : Client Waiter
  mailbox : Mailbox := {}
  callbacks : Nat := 0

namespace Conversation

def begin_ (language : LanguageId) (generation : Nat) (traced : Bool) : Conversation :=
  { client := .start language generation traced Sink.open_.plan }

def name (c : Conversation) (id : Nat) : CallName := ⟨c.client.generation, id⟩

def keep (c : Conversation) : Emission Waiter → Conversation
  | .completed call outcome =>
    match call.tag with
    | .collector => { c with mailbox := c.mailbox.put (c.name call.id) outcome }
    | .callback _ => c
  | _ => c

def accept (c : Conversation) (client : Client Waiter) (es : List (Emission Waiter)) :
    Conversation :=
  es.foldl keep { c with client }

def update (c : Conversation) (f : Client Waiter → Client Waiter × List (Emission Waiter)) :
    Conversation × List (Emission Waiter) :=
  let (client, es) := f c.client
  (c.accept client es, es)

def ask {α : Type} (c : Conversation) (f : Client Waiter → Client.Result Waiter α) :
    Conversation × List (Emission Waiter) × α :=
  let (client, es, a) := f c.client
  (c.accept client es, es, a)

def call (c : Conversation) (method : String) (params : Json) :
    Conversation × List (Emission Waiter) × Except RpcError Nat :=
  c.ask (·.call method params .collector)

def callWith (c : Conversation) (method : String) (params : Json) :
    Conversation × List (Emission Waiter) × Except RpcError Nat :=
  let c := { c with callbacks := c.callbacks + 1 }
  c.ask (·.call method params (.callback c.callbacks))

def collect (c : Conversation) (id : Nat) : Conversation × Option Outcome :=
  let (mailbox, outcome) := c.mailbox.take (c.name id) (c.client.pending.any (·.id = id))
  ({ c with mailbox }, outcome)

def setPlan (c : Conversation) (plan : Nat → Verdict) : Conversation :=
  { c with client := { c.client with sink := c.client.sink.map ({ · with plan }) } }

def takeWritten (c : Conversation) : Conversation × Bytes :=
  let written := ((c.client.sink.map (·.written))).getD []
  ({ c with client := { c.client with sink := c.client.sink.map ({ · with written := [] }) } },
    written)

end Conversation

end LanguageHost
