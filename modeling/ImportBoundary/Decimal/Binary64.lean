/-!
# Binary floating-point numbers of 64 bits

A finite double is a sign and a magnitude, where the magnitude is the number whose binary digits
are the exponent field followed by the fraction field. Read as a natural number, the magnitude
counts the doubles from zero upwards, so neighbouring doubles have neighbouring magnitudes. All
arithmetic is exact arithmetic on natural numbers followed by one rounding (`nearest?`).

Infinities and numbers that are none do not occur. An operation whose result is too large answers
nothing, and the readers take that for a number that is not usable.
-/

namespace ImportBoundary

/-- A finite double: its sign, and its place among the doubles of that sign. -/
structure Binary64 where
  negative : Bool
  magnitude : Nat
deriving DecidableEq, Repr

namespace Binary64

/-- The first magnitude that is no finite number. -/
def infinite : Nat := 2047 <<< 52

/-- The significand `m` of a magnitude, whose value is `m * 2 ^ q`. -/
def significand (magnitude : Nat) : Nat :=
  if magnitude < 1 <<< 52 then magnitude else 1 <<< 52 + magnitude % 1 <<< 52

/-- The exponent `q` of a magnitude, whose value is `m * 2 ^ q`. -/
def exponent (magnitude : Nat) : Int :=
  if magnitude < 1 <<< 52 then -1074 else (magnitude >>> 52 : Nat) - 1075

/-- Rounds a quotient to the nearest natural number, a half to the even neighbour. -/
def roundDiv (num den : Nat) : Nat :=
  let quotient := num / den
  let twice := 2 * (num % den)
  if twice < den then quotient
  else if twice = den then quotient + quotient % 2
  else quotient + 1

/-- The magnitude nearest to `num / den`, a half to the even neighbour; nothing if the quotient
rounds to infinity. -/
def nearest? (num den : Nat) : Option Nat :=
  if num = 0 then some 0
  else
    let scale : Int := (Nat.log2 num : Int) - Nat.log2 den - 53
    -- The quotient is scaled until its whole part has 53 binary digits. The logarithms give the scale
    -- up to one, and small quotients stop at the least exponent.
    let fits (q : Int) : Bool := num <<< (-q).toNat < den <<< q.toNat <<< 53
    let q := max (if fits scale then scale else scale + 1) (-1074)
    -- The first digit of the significand has no place in the fraction field, and makes the exponent
    -- field greater by one.
    let magnitude := (q + 1074).toNat <<< 52 +
      roundDiv (num <<< (-q).toNat) (den <<< q.toNat)
    if magnitude < infinite then some magnitude else none

/-- The numerator of a magnitude's value as a quotient. -/
def num (magnitude : Nat) : Nat := significand magnitude <<< (exponent magnitude).toNat

def den (magnitude : Nat) : Nat := 1 <<< (-exponent magnitude).toNat

def mul? (a b : Nat) : Option Nat := nearest? (num a * num b) (den a * den b)

def div? (a b : Nat) : Option Nat := nearest? (num a * den b) (den a * num b)

/-- The magnitude of a small power of ten; above `10 ^ 308` there is none. -/
def tenPow? (k : Nat) : Option Nat := if k ≤ 308 then nearest? (Nat.pow 10 k) 1 else none

/-- Reads `significand * 10 ^ exponent` in steps: the significand is rounded, then multiplied or
divided by one power of ten, which is rounded as well. A value too large for a finite double is
refused; one too small becomes zero. -/
def ofDecimal? (significand : Nat) (exponent : Int) : Option Nat :=
  (nearest? significand 1).bind fun start =>
    if start = 0 then some 0
    else if exponent ≥ 0 then (tenPow? exponent.toNat).bind (mul? start)
    else
      let k := (-exponent).toNat
      if k ≤ 308 then (tenPow? k).bind (div? start)
      else
        (tenPow? 308).bind fun top =>
          (div? start top).bind fun first =>
            if first = 0 then some 0
            else if k - 308 ≤ 308 then (tenPow? (k - 308)).bind (div? first)
            else some 0

end Binary64

end ImportBoundary
