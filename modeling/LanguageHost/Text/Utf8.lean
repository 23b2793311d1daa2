namespace LanguageHost

abbrev Bytes := List UInt8

namespace Utf8

def tail (n : Nat) : UInt8 := UInt8.ofNat (0x80 + n % 0x40)

def encodeChar (c : Char) : Bytes :=
  let n := c.toNat
  if n < 0x80 then [UInt8.ofNat n]
  else if n < 0x800 then [UInt8.ofNat (0xC0 + n / 0x40), tail n]
  else if n < 0x10000 then [UInt8.ofNat (0xE0 + n / 0x1000), tail (n / 0x40), tail n]
  else [UInt8.ofNat (0xF0 + n / 0x40000), tail (n / 0x1000), tail (n / 0x40), tail n]

def encode : List Char → Bytes
  | [] => []
  | c :: cs => encodeChar c ++ encode cs

def encodeString (s : String) : Bytes := encode s.toList

def tail? (b : UInt8) : Option Nat :=
  if 0x80 ≤ b.toNat ∧ b.toNat < 0xC0 then some (b.toNat - 0x80) else none

def scalar? (least n : Nat) : Option Char :=
  if h : n.isValidChar then
    if least ≤ n then some (Char.ofNatAux n h) else none
  else none

/-- Reads bytes as text; overlong forms, surrogates and cut sequences are refused. -/
def decode? : Bytes → Option (List Char)
  | [] => some []
  | b :: bs =>
    let n := b.toNat
    if n < 0x80 then (decode? bs).map (Char.ofNat n :: ·)
    else match bs with
      | b₁ :: bs₁ =>
        if 0xC0 ≤ n ∧ n < 0xE0 then do
          let c ← scalar? 0x80 ((n - 0xC0) * 0x40 + (← tail? b₁))
          (decode? bs₁).map (c :: ·)
        else match bs₁ with
          | b₂ :: bs₂ =>
            if 0xE0 ≤ n ∧ n < 0xF0 then do
              let c ← scalar? 0x800 ((n - 0xE0) * 0x1000 + (← tail? b₁) * 0x40 + (← tail? b₂))
              (decode? bs₂).map (c :: ·)
            else match bs₂ with
              | b₃ :: bs₃ =>
                if 0xF0 ≤ n ∧ n < 0xF8 then do
                  let c ← scalar? 0x10000 ((n - 0xF0) * 0x40000 + (← tail? b₁) * 0x1000
                    + (← tail? b₂) * 0x40 + (← tail? b₃))
                  (decode? bs₃).map (c :: ·)
                else none
              | [] => none
          | [] => none
      | [] => none

def decodeString? (bs : Bytes) : Option String := (decode? bs).map String.ofList

@[simp] theorem encode_nil : encode [] = [] := rfl

@[simp] theorem encode_cons (c : Char) (cs : List Char) :
    encode (c :: cs) = encodeChar c ++ encode cs := rfl

theorem encode_append (cs ds : List Char) : encode (cs ++ ds) = encode cs ++ encode ds := by
  induction cs with
  | nil => rfl
  | cons c cs ih => simp [ih]

end Utf8

end LanguageHost
