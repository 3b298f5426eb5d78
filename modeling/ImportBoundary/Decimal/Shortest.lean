import ImportBoundary.Decimal.Binary64

/-!
# Shortest decimal text of a double

Every double owns the interval of numbers that round to it. Among the decimals in that interval
`Binary64.shortest` picks one with the fewest digits, and of those the nearest. On the grid of
decimals with `k` digits only the two neighbours of the value have to be tried, and the first grid
with a hit wins.

The interval of a double is closed exactly if its significand is even, since a number halfway between
two doubles goes to the even one. Below a power of two the interval is only half as wide.
-/

namespace ImportBoundary.Binary64

/-- A decimal `digits * 10 ^ exponent`. -/
structure Scaled where
  digits : Nat
  exponent : Int
deriving DecidableEq, Repr

def digitCount (n : Nat) : Nat := (Nat.toDigits 10 n).length

/-- The position of the first digit of `num / den`: the exponent of the largest power of ten that
is not above it. Nothing below `10 ^ (-350)` is looked for. -/
def leadingExponent (num den : Nat) : Int :=
  if den ≤ num then (digitCount (num / den) : Int) - 1
  else
    match (List.range 350).find? fun k => den ≤ num * Nat.pow 10 k with
    | some k => -(k : Int)
    | none => -350

/-- The decimal on the grid of `10 ^ exponent` nearest to the value of `magnitude`, if one lies in
the interval of numbers that round to it. All quantities are counted in quarters of the last
binary place, so that the ends of the interval are whole numbers. -/
def hit? (magnitude : Nat) (exponent : Int) : Option Nat :=
  let m := significand magnitude
  let q := Binary64.exponent magnitude - 2
  let narrow := magnitude % 1 <<< 52 = 0 ∧ 1 <<< 53 ≤ magnitude
  let low := if narrow then 4 * m - 1 else 4 * m - 2
  let high := 4 * m + 2
  let binary (n : Nat) : Nat := n <<< q.toNat * Nat.pow 10 (-exponent).toNat
  let decimal (n : Nat) : Nat := (n * Nat.pow 10 exponent.toNat) <<< (-q).toNat
  let inside (n : Nat) : Bool :=
    if m % 2 = 0 then binary low ≤ decimal n ∧ decimal n ≤ binary high
    else binary low < decimal n ∧ decimal n < binary high
  let below := binary (4 * m) / decimal 1
  let gapBelow := binary (4 * m) - decimal below
  let gapAbove := decimal (below + 1) - binary (4 * m)
  let preferBelow := gapBelow < gapAbove ∨ (gapBelow = gapAbove ∧ below % 2 = 0)
  match inside below, inside (below + 1) with
  | true, true => some (if preferBelow then below else below + 1)
  | true, false => some below
  | false, true => some (below + 1)
  | false, false => none

/-- Moves zeros at the end of the digits into the exponent. -/
def dropZeros (s : Scaled) : Nat → Scaled
  | 0 => s
  | fuel + 1 =>
    if s.digits ≠ 0 ∧ s.digits % 10 = 0 then dropZeros ⟨s.digits / 10, s.exponent + 1⟩ fuel else s

/-- The shortest decimal that reads back as the double, the nearest of those. Seventeen digits
always suffice. -/
def shortest (magnitude : Nat) : Scaled :=
  if magnitude = 0 then ⟨0, 0⟩
  else
    let lead := leadingExponent (num magnitude) (den magnitude)
    let grids := (List.range 17).map fun (k : Nat) => lead - (k : Int)
    match grids.findSome? fun e => (hit? magnitude e).map fun n => (⟨n, e⟩ : Scaled) with
    | some s => dropZeros s 18
    | none => ⟨0, 0⟩

end ImportBoundary.Binary64
