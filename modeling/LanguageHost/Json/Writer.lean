import LanguageHost.Decimal.Shortest
import LanguageHost.Json.Basic
import LanguageHost.Text.Utf8

namespace LanguageHost.Json

def numberLayout : Double.Layout :=
  { lowest := some (-5), highest := some 16, integerPoint := true, exponentSign := ['+'] }

def hexDigit (n : Nat) : Char := Nat.digitChar (n % 16)

def escapeChar (c : Char) : List Char :=
  if c = '"' then ['\\', '"']
  else if c = '\\' then ['\\', '\\']
  else if c = '\x08' then ['\\', 'b']
  else if c = '\x0c' then ['\\', 'f']
  else if c = '\n' then ['\\', 'n']
  else if c = '\r' then ['\\', 'r']
  else if c = '\t' then ['\\', 't']
  else if c.toNat < 0x20 then
    ['\\', 'u', '0', '0', hexDigit (c.toNat / 16), hexDigit c.toNat]
  else [c]

def quote (s : String) : List Char := '"' :: s.toList.flatMap escapeChar ++ ['"']

mutual

def chars : Json → List Char
  | null => ['n', 'u', 'l', 'l']
  | bool true => ['t', 'r', 'u', 'e']
  | bool false => ['f', 'a', 'l', 's', 'e']
  | int i => (toString i).toList
  | float d => if d.isFinite then d.render numberLayout else ['n', 'u', 'l', 'l']
  | str s => quote s
  | arr items => '[' :: itemChars items ++ [']']
  | obj ms => '\x7b' :: memberChars ms ++ ['\x7d']

def itemChars : List Json → List Char
  | [] => []
  | [j] => chars j
  | j :: rest => chars j ++ ',' :: itemChars rest

def memberChars : List (String × Json) → List Char
  | [] => []
  | [(k, j)] => quote k ++ ':' :: chars j
  | (k, j) :: rest => quote k ++ ':' :: chars j ++ ',' :: memberChars rest

end

def render (j : Json) : String := String.ofList j.chars

def bytes (j : Json) : Bytes := Utf8.encode j.chars

def renderOrdered (members : List (String × Json)) : List Char :=
  '\x7b' :: memberChars members ++ ['\x7d']

end LanguageHost.Json
