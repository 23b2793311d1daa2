import LanguageHost.Path.Basic
import LanguageHost.Text.Utf8

namespace LanguageHost

structure Uri where
  text : String
  deriving DecidableEq, Inhabited

namespace Uri

def isUnreserved (c : Char) : Bool := c.isAlphanum || c = '-' || c = '.' || c = '_' || c = '~'

def isSubDelimiter (c : Char) : Bool :=
  c = '!' || c = '$' || c = '&' || c = '\x27' || c = '(' || c = ')' || c = '*' || c = '+' || c = ','
    || c = ';' || c = '='

def isHexDigit (c : Char) : Bool :=
  c.isDigit || ('a' ≤ c && c ≤ 'f') || ('A' ≤ c && c ≤ 'F')

def escaped (allowed : Char → Bool) : List Char → Bool
  | [] => true
  | '%' :: a :: b :: cs => isHexDigit a && isHexDigit b && escaped allowed cs
  | c :: cs => c != '%' && allowed c && escaped allowed cs

def isPathChar (c : Char) : Bool := isUnreserved c || isSubDelimiter c || c = ':' || c = '@'

def validPath (cs : List Char) : Bool := escaped (fun c => isPathChar c || c = '/') cs

def validQuery (cs : List Char) : Bool :=
  escaped (fun c => isPathChar c || c = '/' || c = '?') cs

def isSchemeChar (c : Char) : Bool := c.isAlphanum || c = '+' || c = '-' || c = '.'

def groups (cs : List Char) : List (List Char) :=
  cs.foldr (fun c acc =>
    if c = ':' then [] :: acc
    else match acc with
      | g :: gs => (c :: g) :: gs
      | [] => [[c]]) [[]]

def validGroup (g : List Char) : Bool :=
  1 ≤ g.length && g.length ≤ 4 && g.all isHexDigit

def validOctet (cs : List Char) : Bool :=
  match cs with
  | [] => false
  | ['0'] => true
  | '0' :: _ => false
  | _ => cs.all Char.isDigit && cs.length ≤ 3
    && cs.foldl (fun n c => n * 10 + (c.toNat - '0'.toNat)) 0 ≤ 255

def octets (cs : List Char) : List (List Char) :=
  cs.foldr (fun c acc =>
    if c = '.' then [] :: acc
    else match acc with
      | g :: gs => (c :: g) :: gs
      | [] => [[c]]) [[]]

def validAddress4 (cs : List Char) : Bool :=
  (octets cs).length == 4 && (octets cs).all validOctet

def groupCount? (mayEndInOctets : Bool) (gs : List (List Char)) : Option Nat :=
  match gs.reverse with
  | [] => some 0
  | last :: front =>
    if !front.all validGroup then none
    else if validGroup last then some gs.length
    else if mayEndInOctets && validAddress4 last then some (gs.length + 1)
    else none

def splitGap : List Char → Option (List Char × List Char)
  | ':' :: ':' :: cs => some ([], cs)
  | c :: cs => (splitGap cs).map fun p => (c :: p.1, p.2)
  | [] => none

def groupsOf (cs : List Char) : List (List Char) := if cs.isEmpty then [] else groups cs

def validAddress6 (cs : List Char) : Bool :=
  match splitGap cs with
  | none => groupCount? true (groupsOf cs) == some 8
  | some (front, back) =>
    match groupCount? false (groupsOf front), groupCount? true (groupsOf back) with
    | some a, some b => a + b ≤ 7
    | _, _ => false

def validNumber (cs : List Char) : Bool :=
  match cs with
  | [] => true
  | ':' :: ds => ds.all Char.isDigit
  | _ => false

def validHost (cs : List Char) : Bool :=
  match cs with
  | '[' :: rest =>
    match rest.span (· != ']') with
    | (address, ']' :: number) =>
      validAddress6 address && validNumber number
    | _ => false
  | _ =>
    let (name, number) := cs.span (· != ':')
    escaped (fun c => isUnreserved c || isSubDelimiter c) name && validNumber number

def validAuthority (cs : List Char) : Bool :=
  let (user, rest) := cs.span (· != '@')
  match rest with
  | _ :: host =>
    escaped (fun c => isUnreserved c || isSubDelimiter c || c = ':') user && validHost host
  | [] => validHost cs

def validHierarchy (cs : List Char) : Bool :=
  match cs with
  | '/' :: '/' :: rest =>
    let (authority, path) := rest.span (· != '/')
    validAuthority authority && validPath path
  | _ => validPath cs

def validReference (cs : List Char) : Bool :=
  let (front, fragment) := cs.span (· != '#')
  let (hierarchy, query) := front.span (· != '?')
  let body :=
    match hierarchy.span fun c => c != ':' && c != '/' with
    | (scheme, ':' :: rest) =>
      (scheme.head?.any Char.isAlpha) && scheme.all isSchemeChar && validHierarchy rest
    | _ => validHierarchy hierarchy
  body && validQuery (query.drop 1) && validQuery (fragment.drop 1)

def parse? (s : String) : Option Uri := if validReference s.toList then some ⟨s⟩ else none

def mustEscape (c : Char) : Bool :=
  c.toNat < 0x21 || 0x7F ≤ c.toNat || c = '"' || c = '#' || c = '<' || c = '>' || c = '?'
    || c = '\x60' || c = '\x7b' || c = '\x7d' || c = '/' || c = '%' || c = '\\'

def upperHex (n : Nat) : Char := (Nat.digitChar (n % 16)).toUpper

def escapeByte (b : UInt8) : List Char := ['%', upperHex (b.toNat / 16), upperHex b.toNat]

def escapeChar (c : Char) : List Char :=
  if mustEscape c then (Utf8.encodeChar c).flatMap escapeByte else [c]

def escapeComponent (c : FilePath.Component) : List Char := c.text.toList.flatMap escapeChar

def filePathChars (p : FilePath) : List Char :=
  match p.components.drop 1 with
  | [] => ['/']
  | cs => cs.flatMap fun c => '/' :: escapeComponent c

def fileText (p : FilePath) : String := "file://" ++ String.ofList (filePathChars p)

/-- The URI of an absolute path; otherwise the text that could not become a URI. -/
def ofPath (p : FilePath) : Except String Uri :=
  if !p.isAbsolute then .error p.text
  else match parse? (fileText p) with
    | some u => .ok u
    | none => .error (fileText p)

def untitled (id : Nat) : String := "untitled:Untitled-" ++ toString id

end Uri

end LanguageHost
