import LanguageHost.Json.Reader
import LanguageHost.Text.Basic

/-!
Frames: a block of header lines that announces a length, a blank line, and a body of that many
bytes. The reader takes one signal at a time, so that it does not matter how a stream is cut into
reads.
-/

namespace LanguageHost

inductive Fault where
  | interrupted
  | unexpectedEnd
  | connectionReset
  | brokenPipe
  | permissionDenied
  | notFound
  | notUtf8
  | other
  deriving DecidableEq

def Fault.message : Fault → String
  | interrupted => "operation interrupted"
  | unexpectedEnd => "unexpected end of file"
  | connectionReset => "connection reset"
  | brokenPipe => "broken pipe"
  | permissionDenied => "permission denied"
  | notFound => "entity not found"
  | notUtf8 => "stream did not contain valid UTF-8"
  | other => "other error"

/-- The errors of a connection. Each of them ends it. -/
inductive TransportError where
  | fault (f : Fault)
  | unexpectedEnd
  | missingContentLength
  | invalidHeader (line : String)
  | frameTooLarge (length : Nat)
  | malformedBody (reason : Json.SyntaxError)
  deriving DecidableEq

def maxContentLength : Nat := 64 * 1024 * 1024

def TransportError.message : TransportError → String
  | fault f => "I/O error: " ++ f.message
  | unexpectedEnd => "connection closed by the language server"
  | missingContentLength => "missing Content-Length header"
  | invalidHeader line => "invalid header line '" ++ line ++ "'"
  | frameTooLarge length =>
    "frame of " ++ toString length ++ " bytes exceeds the " ++ toString maxContentLength
      ++ " byte limit"
  | malformedBody reason => "malformed message body: " ++ reason.message

end LanguageHost

namespace LanguageHost.Frame

def contentLength : String := "Content-Length"

def header (length : Nat) : Bytes :=
  Utf8.encodeString (contentLength ++ ": " ++ toString length ++ "\r\n\r\n")

def encode (body : Bytes) : Bytes := header body.length ++ body

inductive Arrival where
  | chunk (bytes : Bytes)
  | fault (f : Fault)

inductive Signal where
  | byte (b : UInt8)
  | fault (f : Fault)
  deriving DecidableEq

def Arrival.signals : Arrival → List Signal
  | chunk bs => bs.map .byte
  | fault f => [.fault f]

def signals (arrivals : List Arrival) : List Signal := arrivals.flatMap Arrival.signals

/-- Where the reader stands inside a frame. The bytes read so far are held in reverse. -/
inductive Phase where
  | line (announced : Option Nat) (soFar : Bytes)
  | body (missing : Nat) (soFar : Bytes)
  deriving DecidableEq

def Phase.start : Phase := .line none []

inductive Step where
  | more (p : Phase)
  | done (r : Except TransportError Bytes)

def parseLength (value : List Char) : Option Nat :=
  let digits := match value with
    | '+' :: ds => ds
    | ds => ds
  if digits.isEmpty || !digits.all Char.isDigit then none
  else
    let n := Json.Reader.natOf digits
    if n < UInt64.size then some n else none

def parseHeader (line : List Char) : Except TransportError (Option Nat) :=
  let invalid := .error (.invalidHeader (String.ofList line))
  let (name, rest) := line.span (· != ':')
  match rest with
  | [] => invalid
  | _ :: value =>
    if Text.equalIgnoringAsciiCase (String.ofList (Text.trim name)) contentLength then
      match parseLength (Text.trim value) with
      | some n => .ok (some n)
      | none => invalid
    else .ok none

def beginBody : Option Nat → Step
  | none => .done (.error .missingContentLength)
  | some n =>
    if maxContentLength < n then .done (.error (.frameTooLarge n))
    else if n = 0 then .done (.ok [])
    else .more (.body n [])

def endLine (announced : Option Nat) (line : Bytes) : Step :=
  match Utf8.decode? line with
  | none => .done (.error (.fault .notUtf8))
  | some cs =>
    match Text.trim cs with
    | [] => beginBody announced
    | cs =>
      match parseHeader cs with
      | .error e => .done (.error e)
      | .ok (some n) => .more (.line (some n) [])
      | .ok none => .more (.line announced [])

def newline : UInt8 := 10

/-- The end of the stream inside a line counts as the end of that line. -/
def finish : Phase → Except TransportError Bytes
  | .body _ _ => .error .unexpectedEnd
  | .line _ [] => .error .unexpectedEnd
  | .line announced soFar =>
    match endLine announced soFar.reverse with
    | .done r => r
    | .more _ => .error .unexpectedEnd

def feed : Phase → Signal → Step
  | p, .fault .interrupted => .more p
  | _, .fault .unexpectedEnd => .done (.error .unexpectedEnd)
  | _, .fault f => .done (.error (.fault f))
  | .line announced soFar, .byte b =>
    if b = newline then endLine announced (b :: soFar).reverse
    else .more (.line announced (b :: soFar))
  | .body missing soFar, .byte b =>
    if missing ≤ 1 then .done (.ok (b :: soFar).reverse)
    else .more (.body (missing - 1) (b :: soFar))

def readFrom (p : Phase) : List Signal → Except TransportError Bytes × List Signal
  | [] => (finish p, [])
  | s :: rest =>
    match feed p s with
    | .more p => readFrom p rest
    | .done r => (r, rest)

def read (stream : List Signal) : Except TransportError Bytes × List Signal :=
  readFrom .start stream

def message (body : Except TransportError Bytes) : Except TransportError Json := do
  match Json.parseBytes (← body) with
  | .ok j => .ok j
  | .error e => .error (.malformedBody e)

def readMany : Nat → List Signal → List (Except TransportError Bytes)
  | 0, _ => []
  | count + 1, stream =>
    match read stream with
    | (.error .unexpectedEnd, _) => [.error .unexpectedEnd]
    | (r, rest) => r :: readMany count rest

end LanguageHost.Frame

namespace LanguageHost

inductive Verdict where
  | whole
  | cut (accepted : Nat) (fault : Fault)
  deriving DecidableEq

structure Sink where
  plan : Nat → Verdict
  attempts : Nat := 0
  written : Bytes := []

namespace Sink

def open_ : Sink := { plan := fun _ => .whole }

def broken (f : Fault) : Nat → Verdict := fun _ => .cut 0 f

def send (s : Sink) (body : Bytes) : Sink × Except TransportError Unit :=
  let frame := Frame.encode body
  match s.plan s.attempts with
  | .whole => ({ s with attempts := s.attempts + 1, written := s.written ++ frame }, .ok ())
  | .cut accepted f =>
    ({ s with attempts := s.attempts + 1, written := s.written ++ frame.take accepted },
      .error (.fault f))

end Sink

end LanguageHost
