import LanguageHost.Rpc.Client

/-!
The reader of a connection: it takes the output of the server one signal at a time, completes the
calls that responses answer, and passes notifications and requests on. It stops at the first error
or at the end of the output, fails the calls that are left, and says so once.
-/

namespace LanguageHost.Client

variable {κ : Type}

def pendingOf (c : Client κ) (id : RequestId) : Option (PendingCall κ) :=
  match id with
  | .number n => c.pending.find? (fun call => (call.id : Int) = n)
  | .string _ => none

def complete (c : Client κ) (r : Response) : Client κ × List (Emission κ) :=
  match r.id.bind c.pendingOf with
  | none =>
    (c, [note .reader .warn "response does not match any pending request"
      [c.languageField, c.generationField]])
  | some call =>
    (c.withdraw call.id, [
      note .reader .debug "received response" [c.languageField, ("method", call.method)],
      .completed call r.outcome])

def dispatch (c : Client κ) (message : Json) : Client κ × List (Emission κ) :=
  let trace := c.traceNote .reader "recv" message.chars
  match Inbound.classify message with
  | .ok (.response r) =>
    let (c, es) := c.complete r
    (c, trace ++ es)
  | .ok (.notification method params) => (c, trace ++ [.notified method params])
  | .ok (.request id method params) => (c, trace ++ [.requested id method params])
  | .error _ => (c, trace ++ [note .reader .warn "ignoring unrecognised message" [c.languageField]])

def stop (c : Client κ) (error : Option TransportError) : Client κ × List (Emission κ) :=
  let closing := error.toList.map fun _ =>
    note .reader .warn "closing connection after transport error"
      [c.languageField, c.generationField]
  let (d, completions) := c.drain (.transport .unexpectedEnd)
  ({ d with reading := false },
    closing ++ completions ++ [
      note .reader .debug "server output closed" [c.languageField, c.generationField],
      .ended error])

def take (c : Client κ) : Except TransportError Json → Client κ × List (Emission κ)
  | .ok message => c.dispatch message
  | .error .unexpectedEnd => c.stop none
  | .error e => c.stop (some e)

def feed (c : Client κ) (s : Frame.Signal) : Client κ × List (Emission κ) :=
  if c.reading then
    match Frame.feed c.phase s with
    | .more p => ({ c with phase := p }, [])
    | .done r => { c with phase := .start }.take (Frame.message r)
  else (c, [])

def receive (c : Client κ) : List Frame.Signal → Client κ × List (Emission κ)
  | [] => (c, [])
  | s :: rest =>
    let (c, es) := c.feed s
    let (c, es') := receive c rest
    (c, es ++ es')

def finish (c : Client κ) : Client κ × List (Emission κ) :=
  if c.reading then
    match Frame.message (Frame.finish c.phase) with
    | .ok message =>
      let (c, es) := c.dispatch message
      let (c, es') := c.stop none
      (c, es ++ es')
    | .error e => c.take (.error e)
  else (c, [])

end LanguageHost.Client
