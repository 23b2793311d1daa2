import LanguageHost.Feature.Progress
import LanguageHost.Rpc.Outcome

namespace LanguageHost

inductive ServerEventKind where
  | initializeResponse (outcome : Outcome)
  | shutdownResponse (outcome : Outcome)
  | notification (method : String) (params : Json)
  | request (id : RequestId) (method : String) (params : Json)
  | closed (error : Option TransportError)

structure ServerEvent where
  language : LanguageId
  generation : Nat
  kind : ServerEventKind

inductive Severity where
  | error
  | warning
  | info
  | log
  | debug
  deriving DecidableEq

namespace Severity

def label : Severity → String
  | error => "Error"
  | warning => "Warning"
  | info => "Info"
  | log => "Log"
  | debug => "Debug"

def ofNumber : Int → Severity
  | 1 => error
  | 2 => warning
  | 3 => info
  | 4 => log
  | _ => debug

end Severity

inductive HostEvent where
  | ready (language : LanguageId)
  | diagnostics (language : LanguageId) (params : Json)
  | serverMessage (language : LanguageId) (severity : Severity) (text : String) (attention : Bool)
  | progress (e : ProgressEvent)
  | notice (language : LanguageId) (message : String)
  | fatal (language : LanguageId) (reason : String)
  | stopped (language : LanguageId)

end LanguageHost
