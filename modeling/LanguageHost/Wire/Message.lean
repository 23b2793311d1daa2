import LanguageHost.Json.Writer

namespace LanguageHost

inductive RequestId where
  | number (n : Int)
  | string (s : String)
  deriving DecidableEq

namespace RequestId

def toJson : RequestId → Json
  | number n => .int n
  | string s => .str s

def toString : RequestId → String
  | number n => ToString.toString n
  | string s => s

end RequestId

def Json.asInt64? (j : Json) : Option Int :=
  j.intIn? (-0x8000000000000000) 0x7fffffffffffffff

structure ErrorObject where
  code : Int
  message : String
  data : Option Json
  deriving BEq

structure Response where
  id : Option RequestId
  result : Json
  error : Option ErrorObject

inductive Inbound where
  | response (r : Response)
  | notification (method : String) (params : Json)
  | request (id : RequestId) (method : String) (params : Json)

inductive ClassifyError where
  | malformed
  | shapeless
  deriving DecidableEq

def ClassifyError.message : ClassifyError → String
  | malformed => "message members are malformed"
  | shapeless => "message has neither a method nor a response payload"

namespace Inbound

def optional {α : Type} (read : Json → Option α) : Option Json → Except ClassifyError (Option α)
  | none => .ok none
  | some .null => .ok none
  | some j =>
    match read j with
    | some a => .ok (some a)
    | none => .error .malformed

def readId : Json → Option RequestId
  | .str s => some (.string s)
  | j => j.asInt64?.map .number

def present : Json → Option Json
  | .null => none
  | j => some j

def readError : Json → Option ErrorObject
  | .obj ms => do
    let code ← (← Members.find? "code" ms).asInt64?
    let message ← (← Members.find? "message" ms).asString?
    some ⟨code, message, (Members.find? "data" ms).bind present⟩
  | .arr [code, message] => do some ⟨← code.asInt64?, ← message.asString?, none⟩
  | .arr [code, message, data] => do some ⟨← code.asInt64?, ← message.asString?, present data⟩
  | _ => none

structure Raw where
  id : Option RequestId
  method : Option String
  params : Option Json
  result : Option Json
  error : Option ErrorObject

/-- The members by name, or by position in an array of at most five. -/
def readRaw (j : Json) : Except ClassifyError Raw := do
  let member : String → Nat → Except ClassifyError (Option Json) := fun name index =>
    match j with
    | .obj ms => .ok (Members.find? name ms)
    | .arr items => if items.length ≤ 5 then .ok items[index]? else .error .malformed
    | _ => .error .malformed
  let id ← optional readId (← member "id" 0)
  let method ← optional Json.asString? (← member "method" 1)
  let params ← optional some (← member "params" 2)
  let result ← optional some (← member "result" 3)
  let error ← optional readError (← member "error" 4)
  .ok ⟨id, method, params, result, error⟩

def ofRaw (raw : Raw) : Except ClassifyError Inbound :=
  match raw.method, raw.id with
  | some method, some id => .ok (.request id method (raw.params.getD .null))
  | some method, none => .ok (.notification method (raw.params.getD .null))
  | none, id =>
    if id.isSome || raw.result.isSome || raw.error.isSome then
      .ok (.response ⟨id, raw.result.getD .null, raw.error⟩)
    else .error .shapeless

def classify (j : Json) : Except ClassifyError Inbound := do ofRaw (← readRaw j)

end Inbound

inductive Reply where
  | result (value : Json)
  | error (code : Int) (message : String)
  deriving BEq

inductive Outbound where
  | request (id : Int) (method : String) (params : Option Json)
  | notification (method : String) (params : Option Json)
  | reply (id : RequestId) (outcome : Reply)
  deriving BEq

namespace Outbound

def version : String × Json := ("jsonrpc", .str "2.0")

def paramsMember : Option Json → List (String × Json)
  | some params => [("params", params)]
  | none => []

def Reply.member : Reply → String × Json
  | .result value => ("result", value)
  | .error code message => ("error", .object [("code", .int code), ("message", .str message)])

def members : Outbound → List (String × Json)
  | request id method params =>
    [version, ("id", .int id), ("method", .str method)] ++ paramsMember params
  | notification method params => [version, ("method", .str method)] ++ paramsMember params
  | reply id outcome => [version, ("id", id.toJson), Reply.member outcome]

def toJson (m : Outbound) : Json := .object m.members

def chars (m : Outbound) : List Char := Json.renderOrdered m.members

def bytes (m : Outbound) : Bytes := Utf8.encode m.chars

end Outbound

def methodNotFound : Int := -32601

def invalidParams : Int := -32602

end LanguageHost
