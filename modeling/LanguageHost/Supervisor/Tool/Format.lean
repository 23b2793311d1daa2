import LanguageHost.Supervisor.Tool.Echo

namespace LanguageHost.Tool.Format

structure Pass where
  output : Bytes := []
  rest : List String
  ended : Bool := false

def Pass.before (bs : Bytes) (p : Pass) : Pass := { p with output := bs ++ p.output }

def based (base : Nat) (i : Int) : Bytes :=
  Utf8.encode (Nat.toDigits base (if i < 0 then (i + UInt64.size).toNat else i.toNat))

def convert? (conversion : Char) (arg : String) : Option Bytes :=
  let number : Int := (arg.toInt?).getD 0
  if conversion = 's' then some (Utf8.encodeString arg)
  else if conversion = 'b' then some (Echo.expand (arg.length + 1) arg.toList).1
  else if conversion = 'c' then some ((Utf8.encodeString arg).take 1)
  else if conversion = 'd' ∨ conversion = 'i' then some (Utf8.encodeString (toString number))
  else if conversion = 'u' then some (based 10 number)
  else if conversion = 'x' then some (based 16 number)
  else if conversion = 'o' then some (based 8 number)
  else none

def pass : Nat → List String → List Char → Pass
  | 0, args, _ => { rest := args }
  | fuel + 1, args, format =>
    match format with
    | [] => { rest := args }
    | '%' :: '%' :: cs => (pass fuel args cs).before [37]
    | '%' :: conversion :: cs =>
      match convert? conversion (args.headD "") with
      | some bs => (pass fuel (args.drop 1) cs).before bs
      | none => { rest := args, ended := true }
    | '\\' :: 'c' :: _ => { rest := args, ended := true }
    | '\\' :: '"' :: cs => (pass fuel args cs).before [34]
    | c :: cs =>
      match (if c = '\\' then Echo.escape? cs else none) with
      | some (b, cs) => (pass fuel args cs).before [b]
      | none => (pass fuel args cs).before (Utf8.encodeChar c)

def passes : Nat → List String → List Char → Bytes
  | 0, _, _ => []
  | fuel + 1, args, format =>
    let p := pass (format.length + 1) args format
    if p.ended || p.rest.isEmpty || p.rest.length = args.length then p.output
    else p.output ++ passes fuel p.rest format

def output : List String → Bytes
  | [] => []
  | format :: args => passes (args.length + 1) args format.toList

end LanguageHost.Tool.Format
