import LanguageHost.Decimal.Double

/-!
Decimals read with a significand of 64 bits. The digits that fit are kept exactly, and the power of
ten is applied in double precision afterwards, so the result need not be the nearest double.
-/

namespace LanguageHost

namespace Double

def zero : Double := withSign false 0

def isZero (d : Double) : Bool := d.mantissa == 0

def negate (d : Double) : Double := ⟨d.bits ^^^ 0x8000000000000000⟩

def ofQuotient? (num den : Nat) : Option Double :=
  if num = 0 then some zero else (roundQuotient num den).map (withSign false)

def mul? (a b : Double) : Option Double :=
  let e := a.exponent + b.exponent
  ofQuotient? ((a.mantissa * b.mantissa) <<< e.toNat) (1 <<< (-e).toNat)

def div? (a b : Double) : Option Double :=
  let e := a.exponent - b.exponent
  ofQuotient? (a.mantissa <<< e.toNat) (b.mantissa <<< (-e).toNat)

def maxPower : Nat := 308

def powerOfTen (n : Nat) : Double := (ofQuotient? (Nat.pow 10 n) 1).getD (infinity false)

def shrink? : Nat → Double → Option Double
  | 0, d => some d
  | count + 1, d =>
    if d.isZero then some d else (d.div? (powerOfTen maxPower)).bind (shrink? count)

/-- `d * 10 ^ e`, rounded after each factor. -/
def scale? (d : Double) : Int → Option Double
  | .ofNat n =>
    if n ≤ maxPower then d.mul? (powerOfTen n) else if d.isZero then some d else none
  | .negSucc n =>
    (d.shrink? (n / maxPower)).bind (·.div? (powerOfTen (n % maxPower + 1)))

end Double

structure Scaled where
  significand : Nat
  exponent : Int
  deriving DecidableEq

namespace Scaled

def appendDigit? (n digit : Nat) : Option Nat :=
  if n * 10 + digit < UInt64.size then some (n * 10 + digit) else none

def ofWhole (n : Nat) : List Nat → Scaled
  | [] => ⟨n, 0⟩
  | d :: ds =>
    match appendDigit? n d with
    | some n => ofWhole n ds
    | none => ⟨n, ds.length + 1⟩

def withFraction (s : Scaled) : List Nat → Scaled
  | [] => s
  | d :: ds =>
    match appendDigit? s.significand d with
    | some n => withFraction ⟨n, s.exponent - 1⟩ ds
    | none => s

def ofDigits (whole fraction : List Nat) (exponent : Int) : Scaled :=
  let s := (ofWhole 0 whole).withFraction fraction
  { s with exponent := s.exponent + exponent }

def toDouble? (negative : Bool) (s : Scaled) : Option Double :=
  ((Double.ofQuotient? s.significand 1).bind (·.scale? s.exponent)).map fun d =>
    if negative then d.negate else d

end Scaled

end LanguageHost
