import LanguageHost.Decimal.Double

namespace LanguageHost

inductive Json where
  | null
  | bool (b : Bool)
  | int (i : Int)
  | float (d : Double)
  | str (s : String)
  | arr (items : List Json)
  | obj (members : List (String × Json))
  deriving Inhabited, BEq

namespace Members

variable {α : Type}

def find? (key : String) : List (String × α) → Option α
  | [] => none
  | (k, v) :: rest => if k = key then some v else find? key rest

def insert (key : String) (value : α) : List (String × α) → List (String × α)
  | [] => [(key, value)]
  | (k, v) :: rest =>
    if key < k then (key, value) :: (k, v) :: rest
    else if key = k then (key, value) :: rest
    else (k, v) :: insert key value rest

def erase (key : String) : List (String × α) → List (String × α)
  | [] => []
  | (k, v) :: rest => if k = key then rest else (k, v) :: erase key rest

def ofList (entries : List (String × α)) : List (String × α) :=
  entries.foldl (fun members e => insert e.1 e.2 members) []

theorem find?_insert (key k : String) (value : α) (ms : List (String × α)) :
    find? k (insert key value ms) = if key = k then some value else find? k ms := by
  induction ms with
  | nil => simp [insert, find?]
  | cons e rest ih =>
    obtain ⟨k', v'⟩ := e
    by_cases hk : key = k
    · subst hk
      simp only [insert]
      split
      · simp [find?]
      · split
        · simp [find?]
        · rename_i hne
          simp [find?, ih, Ne.symm hne]
    · simp only [insert]
      split
      · simp [find?, hk]
      · split
        · rename_i heq
          subst heq
          simp [find?, hk]
        · simp only [find?, ih, hk, if_false]

end Members

namespace Json

def object (entries : List (String × Json)) : Json := obj (Members.ofList entries)

def get? (key : String) : Json → Option Json
  | obj ms => Members.find? key ms
  | _ => none

def at? : List String → Json → Option Json
  | [], j => some j
  | key :: keys, j => (j.get? key).bind (at? keys)

def isNull : Json → Bool
  | null => true
  | _ => false

def asString? : Json → Option String
  | str s => some s
  | _ => none

def asArray? : Json → Option (List Json)
  | arr items => some items
  | _ => none

def asObject? : Json → Option (List (String × Json))
  | obj ms => some ms
  | _ => none

def asBool? : Json → Option Bool
  | bool b => some b
  | _ => none

def asInt? : Json → Option Int
  | int i => some i
  | _ => none

def intIn? (least greatest : Int) : Json → Option Int
  | int i => if least ≤ i ∧ i ≤ greatest then some i else none
  | _ => none

def isObject (j : Json) : Bool := j.asObject?.isSome

def ofOption {α : Type} (f : α → Json) : Option α → Json
  | some a => f a
  | none => null

def strings (ss : List String) : Json := arr (ss.map str)

mutual

def same : Json → Json → Bool
  | null, null => true
  | bool a, bool b => a == b
  | int a, int b => a == b
  | float a, float b => decide (a = b)
  | str a, str b => a == b
  | arr as, arr bs => sameItems as bs
  | obj as, obj bs => sameMembers as bs
  | _, _ => false

def sameItems : List Json → List Json → Bool
  | [], [] => true
  | a :: as, b :: bs => same a b && sameItems as bs
  | _, _ => false

def sameMembers : List (String × Json) → List (String × Json) → Bool
  | [], [] => true
  | (k, a) :: as, (l, b) :: bs => k == l && same a b && sameMembers as bs
  | _, _ => false

end

mutual

theorem same_iff (a b : Json) : same a b ↔ a = b := by
  cases a <;> cases b <;> simp [same, sameItems_iff, sameMembers_iff]

theorem sameItems_iff (as bs : List Json) : sameItems as bs ↔ as = bs := by
  cases as <;> cases bs <;> simp [sameItems, same_iff, sameItems_iff]

theorem sameMembers_iff (as bs : List (String × Json)) : sameMembers as bs ↔ as = bs := by
  rcases as with - | ⟨⟨k, a⟩, as⟩ <;> rcases bs with - | ⟨⟨l, b⟩, bs⟩ <;>
    simp [sameMembers, same_iff, sameMembers_iff]

end

instance : DecidableEq Json := fun a b => decidable_of_iff _ (same_iff a b)

end Json

end LanguageHost
