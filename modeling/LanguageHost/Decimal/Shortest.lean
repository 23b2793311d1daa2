import LanguageHost.Decimal.Double

namespace LanguageHost

namespace Double

structure Decimal where
  digits : Nat
  exponent : Int
  deriving DecidableEq

def readsBack (m : Nat) (q : Int) (c : Decimal) : Bool :=
  let below := if m = leadingBit ∧ -1074 < q then 1 else 2
  let point := (4 * c.digits * Nat.pow 10 c.exponent.toNat) <<< (-q).toNat
  let scale := Nat.pow 10 (-c.exponent).toNat <<< q.toNat
  let lo := (4 * m - below) * scale
  let hi := (4 * m + 2) * scale
  if m % 2 = 0 then decide (lo ≤ point ∧ point ≤ hi) else decide (lo < point ∧ point < hi)

def powerAbove (num den : Nat) : Nat → Int → Int
  | 0, guess => guess
  | fuel + 1, guess =>
    if num * Nat.pow 10 (-guess).toNat < den * Nat.pow 10 guess.toNat then guess
    else powerAbove num den fuel (guess + 1)

def onGrid? (num den : Nat) (good : Decimal → Bool) (exponent : Int) : Option Decimal :=
  let n := num * Nat.pow 10 (-exponent).toNat
  let d := den * Nat.pow 10 exponent.toNat
  let low := n / d
  let rest := 2 * (n % d)
  let lower : Decimal := ⟨low, exponent⟩
  let upper : Decimal := ⟨low + 1, exponent⟩
  match good lower, good upper with
  | true, true => if rest < d ∨ rest = d ∧ low % 2 = 0 then some lower else some upper
  | true, false => some lower
  | false, true => some upper
  | false, false => none

def firstGrid (num den : Nat) (good : Decimal → Bool) (top : Int) : Nat → Nat → Decimal
  | 0, count => ⟨0, top - count⟩
  | fuel + 1, count =>
    (onGrid? num den good (top - count)).getD (firstGrid num den good top fuel (count + 1))

def Decimal.strip : Nat → Decimal → Decimal
  | 0, c => c
  | fuel + 1, c =>
    if c.digits ≠ 0 ∧ c.digits % 10 = 0 then strip fuel ⟨c.digits / 10, c.exponent + 1⟩ else c

/-- The decimal with the fewest digits that reads back as the magnitude of `d`, and of those the
nearest. -/
def shortest (d : Double) : Decimal :=
  let m := d.mantissa
  let q := d.exponent
  if m = 0 then ⟨0, 0⟩
  else
    let num := m <<< q.toNat
    let den := 1 <<< (-q).toNat
    let guess : Int := ((num.log2 : Int) - den.log2 - 1) * 301 / 1000 - 1
    let top := powerAbove num den 8 guess
    (firstGrid num den (readsBack m q) top 17 1).strip 20

structure Layout where
  lowest : Option Int
  highest : Option Int
  integerPoint : Bool
  exponentSign : List Char

def Layout.isPositional (l : Layout) (point : Int) : Bool :=
  l.lowest.all (· < point) && l.highest.all (point ≤ ·)

def positional (l : Layout) (digits : List Char) (point : Int) : List Char :=
  if point ≤ 0 then '0' :: '.' :: List.replicate (-point).toNat '0' ++ digits
  else if (digits.length : Int) ≤ point then
    digits ++ List.replicate (point.toNat - digits.length) '0'
      ++ if l.integerPoint then ['.', '0'] else []
  else digits.take point.toNat ++ '.' :: digits.drop point.toNat

def scientific (l : Layout) (digits : List Char) (point : Int) : List Char :=
  let e := point - 1
  digits.take 1 ++ (if digits.length ≤ 1 then [] else '.' :: digits.drop 1)
    ++ 'e' :: (if e < 0 then ['-'] else l.exponentSign) ++ Nat.toDigits 10 e.natAbs

def render (l : Layout) (d : Double) : List Char :=
  let c := d.shortest
  let digits := Nat.toDigits 10 c.digits
  let point := if c.digits = 0 then 1 else digits.length + c.exponent
  let body := if l.isPositional point then positional l digits point
    else scientific l digits point
  if d.negative then '-' :: body else body

end Double

end LanguageHost
