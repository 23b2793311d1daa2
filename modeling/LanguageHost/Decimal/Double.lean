namespace LanguageHost

structure Double where
  bits : UInt64
  deriving DecidableEq, Inhabited

namespace Double

def negative (d : Double) : Bool := d.bits >>> 63 == 1

def exponentField (d : Double) : Nat := (d.bits >>> 52).toNat % 2048

def leadingBit : Nat := 1 <<< 52

def fraction (d : Double) : Nat := d.bits.toNat % leadingBit

def isFinite (d : Double) : Bool := d.exponentField != 2047

def isNaN (d : Double) : Bool := !d.isFinite && d.fraction != 0

def mantissa (d : Double) : Nat :=
  if d.exponentField = 0 then d.fraction else leadingBit + d.fraction

def exponent (d : Double) : Int :=
  if d.exponentField = 0 then -1074 else d.exponentField - 1075

def withSign (negative : Bool) (magnitude : Nat) : Double :=
  ⟨UInt64.ofNat (magnitude + if negative then 1 <<< 63 else 0)⟩

def infinity (negative : Bool) : Double := withSign negative (2047 * leadingBit)

def nan (negative : Bool) : Double := withSign negative (2047 * leadingBit + leadingBit / 2)

def divToEven (num den : Nat) : Nat :=
  let q := num / den
  let r := num % den
  if 2 * r < den then q
  else if den < 2 * r then q + 1
  else q + q % 2

def unitExponent (num den : Nat) : Int :=
  let guess : Int := (num.log2 : Int) - den.log2 - 52
  let fits := num <<< (-guess).toNat < den <<< (52 + guess.toNat)
  max (-1074) (if fits then guess - 1 else guess)

/-- The magnitude bits of the double nearest to `num / den`; `none` beyond the largest one. -/
def roundQuotient (num den : Nat) : Option Nat :=
  let e := unitExponent num den
  let m := divToEven (num <<< (-e).toNat) (den <<< e.toNat)
  let magnitude := m + (e + 1074).toNat * leadingBit
  if magnitude < 2047 * leadingBit then some magnitude else none

def digitCount (n : Nat) : Nat := (Nat.toDigits 10 n).length

def ofDecimal? (negative : Bool) (digits : Nat) (exponent : Int) : Option Double :=
  let size : Int := digitCount digits + exponent
  if digits = 0 ∨ size < -330 then some (withSign negative 0)
  else if 310 < size then none
  else (roundQuotient (digits * Nat.pow 10 exponent.toNat) (Nat.pow 10 (-exponent).toNat)).map
    (withSign negative)

end Double

end LanguageHost
