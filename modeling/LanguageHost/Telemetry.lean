import LanguageHost.Settings.Types
import LanguageHost.Telemetry.Pattern
import LanguageHost.Text.LetterTable
import LanguageHost.Text.Basic
import LanguageHost.Text.Utf8

namespace LanguageHost.Telemetry

def levelNames : List String := ["off", "error", "warn", "info", "debug", "trace"]

def maxLevelNumber : Nat := 5

def number? (cs : List Char) : Option Nat :=
  let ds := match cs with
    | '+' :: ds => ds
    | ds => ds
  if !ds.isEmpty && ds.all Char.isDigit then some (ds.foldl (fun n c => n * 10 + (c.toNat - 48)) 0)
  else none

def isLevel (cs : List Char) : Bool :=
  levelNames.contains (Text.asciiLower (String.ofList cs)) || (number? cs).any (· ≤ maxLevelNumber)

def isSignedNumber : List Char → Bool
  | '+' :: cs =>
    let words := ["inf", "infinity", "nan"]
    let (whole, rest) := cs.span Char.isDigit
    let (fraction, rest) := match rest with
      | '.' :: rest => rest.span Char.isDigit
      | rest => ([], rest)
    let exponent := match rest with
      | [] => true
      | e :: rest =>
        let ds := match rest with
          | '+' :: ds => ds
          | '-' :: ds => ds
          | ds => ds
        (e = 'e' || e = 'E') && !ds.isEmpty && ds.all Char.isDigit
    words.contains (Text.asciiLower (String.ofList cs))
      || (!(whole.isEmpty && fraction.isEmpty) && exponent)
  | _ => false

def isField (cs : List Char) : Bool :=
  !cs.isEmpty &&
    match cs.span (· != '=') with
    | (_, _ :: rest) =>
      let value := rest.takeWhile (· != '=')
      isSignedNumber value || Pattern.isPattern value
    | _ => true

def mayStart (c : Char) : Bool := c = '-' || c = ':' || c = '_' || Text.isAlphanumeric c

inductive Place where
  | start
  | target
  | span
  | field (first : Nat)
  | fieldsEnd
  | spanEnd
  | level (first : Nat)

def slice? (text : Bytes) (first last : Nat) : Option (List Char) :=
  Utf8.decode? ((text.take last).drop first)

def Place.next (text : Bytes) (offset : Nat) : Place → Char → Option Place
  | start, c => if c = '[' then some span else if mayStart c then some target else none
  | target, c =>
    if c = '=' then some (level (offset + 1)) else if c = '[' then some span else some target
  | span, c =>
    if c = ']' then some spanEnd else if c = '\x7b' then some (field (offset + 1)) else some span
  | field first, c =>
    if c = '\x7d' then
      if (slice? text first offset).any isField then some fieldsEnd else none
    else some (field first)
  | fieldsEnd, c => if c = ']' then some spanEnd else none
  | spanEnd, c => if c = '=' then some (level (offset + 1)) else none
  | level first, _ => some (level first)

def Place.isEnd (text : Bytes) : Place → Bool
  | target => true
  | spanEnd => true
  | level first => (slice? text first text.length).any fun cs => cs.isEmpty || isLevel cs
  | _ => false

def follow (text : Bytes) : Place → Nat → List Char → Option Place
  | p, _, [] => some p
  | p, offset, c :: cs => (p.next text offset c).bind fun p => follow text p (offset + c.utf8Size) cs

/-- Blanks around a directive are passed over, but offsets are counted from its first character and
taken in the text with the blanks. -/
def isDirective (s : List Char) : Bool :=
  let text := Utf8.encode s
  (follow text .start 0 (Text.trim s)).any (·.isEnd text)

def pieces : List Char → List (List Char)
  | [] => [[]]
  | ',' :: cs => [] :: pieces cs
  | c :: cs =>
    match pieces cs with
    | p :: ps => (c :: p) :: ps
    | [] => [[c]]

def isFilter (filter : String) : Bool :=
  (pieces filter.toList).all fun p => p.isEmpty || isDirective p

inductive Refusal where
  | filter
  | subscriber
  deriving DecidableEq

structure State where
  installed : Option LoggingSettings
  foreign : Bool

/-- The first call that succeeds decides; later calls get its settings, whatever they ask for. -/
def initialise (st : State) (s : LoggingSettings) : State × Except Refusal LoggingSettings :=
  match st.installed with
  | some installed => (st, .ok installed)
  | none =>
    if !isFilter s.filter then (st, .error .filter)
    else if st.foreign then (st, .error .subscriber)
    else ({ st with installed := some s }, .ok s)

end LanguageHost.Telemetry
