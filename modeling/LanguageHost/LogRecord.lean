namespace LanguageHost

inductive LogLevel where
  | error
  | warn
  | info
  | debug
  | trace
  deriving DecidableEq

namespace LogLevel

def label : LogLevel → String
  | error => "ERROR"
  | warn => "WARN"
  | info => "INFO"
  | debug => "DEBUG"
  | trace => "TRACE"

def rank : LogLevel → Nat
  | error => 1
  | warn => 2
  | info => 3
  | debug => 4
  | trace => 5

def heardAt (level threshold : LogLevel) : Bool := level.rank ≤ threshold.rank

end LogLevel

structure LogRecord where
  level : LogLevel
  target : String
  message : String
  fields : List (String × String)
  deriving DecidableEq

end LanguageHost
