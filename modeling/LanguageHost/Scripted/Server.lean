import LanguageHost.Session.Connections
import LanguageHost.Supervisor.Child

/-!
Servers that follow a script: what they answer, what they leave unanswered, and when they break. A
child process may stand in the place of the script. What such a server sends waits in its outbox
until it is delivered.
-/

namespace LanguageHost

inductive ScriptedLaunch where
  | ok
  | notFound
  | spawnFailed
  | missingPipe
  | connection
  deriving DecidableEq

structure Script where
  launch : ScriptedLaunch := .ok
  capabilities : Json := .null
  results : List (String × Json) := []
  errors : List (String × Json) := []
  unanswered : List String := []
  crashOn : List String := []
  answersShutdown : Bool := true
  brokenInput : Option Fault := none

namespace Script

def plan (s : Script) : Nat → Verdict :=
  match s.brokenInput with
  | none => fun _ => .whole
  | some f => Sink.broken f

def launched (s : Script) (request : LaunchRequest) : Except LaunchError (Nat → Verdict) :=
  let program := request.command.program
  match s.launch with
  | .ok => .ok s.plan
  | .notFound => .error (.binaryNotFound program)
  | .spawnFailed => .error (.spawnFailed program Fault.permissionDenied.message)
  | .missingPipe => .error (.missingPipe "stdout")
  | .connection => .error (.connection .unexpectedEnd)

def outcome (s : Script) (method : String) : String × Json :=
  match Members.find? method s.errors, Members.find? method s.results with
  | some e, _ => ("error", e)
  | none, some r => ("result", r)
  | none, none =>
    ("result", if method = "initialize" then .object [("capabilities", s.capabilities)] else .null)

end Script

inductive Output where
  | bytes (arrivals : List Frame.Arrival)
  | finish

structure ScriptedServer where
  launch : Nat
  script : Script
  child : Option (Supervisor.Child × Bytes) := none
  outbox : List Output := []
  ended : Bool := false

namespace ScriptedServer

def emit (s : ScriptedServer) (arrivals : List Frame.Arrival) : ScriptedServer :=
  if s.ended then s else { s with outbox := s.outbox ++ [.bytes arrivals] }

def crash (s : ScriptedServer) : ScriptedServer :=
  if s.ended then s else { s with outbox := s.outbox ++ [.finish], ended := true }

def kill (s : ScriptedServer) : ScriptedServer := { s with outbox := [], ended := true }

def send (s : ScriptedServer) (message : Json) : ScriptedServer :=
  s.emit [.chunk (Frame.encode message.bytes)]

def version : String × Json := ("jsonrpc", .str "2.0")

def answer (s : ScriptedServer) (id : Int) (method : String) : ScriptedServer :=
  if s.script.unanswered.contains method
      || (method = "shutdown" && !s.script.answersShutdown) then s
  else if s.script.crashOn.contains method then s.crash
  else s.send (.object [version, ("id", .int id), s.script.outcome method])

/-- A server that is a child process. It may write before it is sent anything, and some of that may
have been taken already. -/
def ofChild (launch : Nat) (taken : Overture) (child : Supervisor.Child) : ScriptedServer :=
  let s : ScriptedServer := { launch, script := {}, child := some (child, []), ended := taken.ended }
  let s := s.emit [.chunk ((child.written []).drop taken.signals.length)]
  if child.exits then s.crash else s

def forward (s : ScriptedServer) (child : Supervisor.Child) (input frame : Bytes) : ScriptedServer :=
  let fresh := (child.written (input ++ frame)).drop (child.written input).length
  { s with child := some (child, input ++ frame) }.emit [.chunk fresh]

def play (s : ScriptedServer) : Outbound → ScriptedServer
  | .request id method _ => s.answer id method
  | .notification method _ =>
    if method = "exit" && s.script.answersShutdown then s.crash else s
  | .reply .. => s

def hear (s : ScriptedServer) (m : Outbound) : ScriptedServer :=
  match s.child with
  | some (child, input) => s.forward child input (Frame.encode m.bytes)
  | none => s.play m

def heard (m : Outbound) : Json :=
  match Json.parseBytes m.bytes with
  | .ok j => j
  | .error _ => m.toJson

end ScriptedServer

end LanguageHost
