/-!
# Numbers of 53 bits

The numbers from zero up that the IEEE 754 format `binary64` has: products of a whole number below
2^53 and a power of two from 2^-1074 on, below 2^1024, and infinity. A fraction becomes the nearest
of them, and of two that are equally near the one whose whole number is even.
-/

namespace ForgeBoard

/-- A number `significand` · 2^`exponent`, or infinity. -/
inductive Binary64 where
  | finite (significand : Nat) (exponent : Int)
  | infinite
  deriving DecidableEq

namespace Binary64

/-- The whole number that is nearest to a fraction, an even one if two are equally near. -/
def nearestWhole (numerator denominator : Nat) : Nat :=
  let quotient := numerator / denominator
  let remainder := numerator % denominator
  if 2 * remainder < denominator then quotient
  else if denominator < 2 * remainder then quotient + 1
  else quotient + quotient % 2

/-- The exponent at which a fraction has a significand of 53 bits, -1074 at least. -/
def exponentOf (numerator denominator : Nat) : Int :=
  let e : Int := (numerator.log2 : Int) - denominator.log2 - 53
  let isLarge :=
    if 0 ≤ e then denominator <<< (e.toNat + 53) ≤ numerator
    else denominator <<< 53 ≤ numerator <<< (-e).toNat
  max (if isLarge then e + 1 else e) (-1074)

/-- The nearest number to a fraction. -/
def ofFraction (numerator denominator : Nat) : Binary64 :=
  if numerator = 0 then finite 0 0
  else
    let e := exponentOf numerator denominator
    let significand :=
      if 0 ≤ e then nearestWhole numerator (denominator <<< e.toNat)
      else nearestWhole (numerator <<< (-e).toNat) denominator
    if 1024 < e + (significand.log2 + 1 : Nat) then infinite else finite significand e

/-- The product with a whole number. -/
def scale (factor : Nat) : Binary64 → Binary64
  | finite m e =>
    if 0 ≤ e then ofFraction ((factor * m) <<< e.toNat) 1
    else ofFraction (factor * m) (1 <<< (-e).toNat)
  | infinite => infinite

/-- The whole part, up to a greatest value. -/
def wholePart (greatest : Nat) : Binary64 → Nat
  | finite m e => min greatest (if 0 ≤ e then m <<< e.toNat else m >>> (-e).toNat)
  | infinite => greatest

def isZero : Binary64 → Bool
  | finite 0 _ => true
  | _ => false

end Binary64

end ForgeBoard
