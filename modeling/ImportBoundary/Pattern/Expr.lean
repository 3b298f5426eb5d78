import ImportBoundary.Pattern.Term
import ImportBoundary.Unicode.Query

/-!
# Expressions and what they match

An expression is a pattern whose flags have been applied and whose classes are sets of characters.
It is matched by following sets of places. A place of a text of `n` characters is a number from `0`
to `n`, a set of places is a natural number read in binary, and `ends` maps the places where an
expression may begin to those where it may end. Since places only grow, repeating an expression more
often than there are places changes nothing, and that bounds every repetition.
-/

namespace ImportBoundary.Pattern

/-- A condition on the place between two characters. -/
inductive Look where
  | textStart
  | textEnd
  | lineStart
  | lineEnd
  | lineStartCrlf
  | lineEndCrlf
  | word (place : WordPlace) (unicode : Bool)
deriving DecidableEq, Repr

inductive Atom where
  /-- One character of a set. -/
  | chars (set : CharSet)
  /-- No character, but a condition on the place. -/
  | look (look : Look)
deriving DecidableEq, Repr

inductive Expr (α : Type) where
  | empty
  | atom (a : α)
  | concat (parts : List (Expr α))
  | alternation (branches : List (Expr α))
  | repeated (part : Expr α) (least : Nat) (most : Option Nat)
  | capture (part : Expr α)

/-! ### Conditions on places

A condition sees the two characters next to a place. At the ends of a text one of them is missing, and
what is missing is no character of a word.
-/

def asciiWord : CharSet := ⟨[⟨0x30, 0x39⟩, ⟨0x41, 0x5A⟩, ⟨0x5F, 0x5F⟩, ⟨0x61, 0x7A⟩]⟩

def isWordChar (unicode : Bool) : Option Char → Bool
  | none => false
  | some c => if unicode then Unicode.wordChars.mem c.toNat else asciiWord.mem c.toNat

def WordPlace.holds (before after : Bool) : WordPlace → Bool
  | boundary => before != after
  | inside => before == after
  | start => !before && after
  | finish => before && !after
  | startHalf => !before
  | finishHalf => !after

/-- Whether a condition holds between the character before a place and the one after it. -/
def Look.holds (before after : Option Char) : Look → Bool
  | textStart => before.isNone
  | textEnd => after.isNone
  | lineStart => before.isNone || before == some '\n'
  | lineEnd => after.isNone || after == some '\n'
  | lineStartCrlf =>
    before.isNone || before == some '\n' || (before == some '\r' && after != some '\n')
  | lineEndCrlf =>
    after.isNone || after == some '\r' || (after == some '\n' && before != some '\r')
  | word place unicode => place.holds (isWordChar unicode before) (isWordChar unicode after)

/-! ### Sets of places

With places as the digits of a number, moving on by one character is a shift and a choice is a bitwise
or. The characters of a text are looked at once, when the atoms of an expression are turned into moves
on it.
-/

/-- The set of the places for which a list, starting with place `0`, says yes. -/
def placesOf : List Bool → Nat
  | [] => 0
  | b :: rest => (if b then 1 else 0) + 2 * placesOf rest

/-- The answers for all places of a text, given the character before its first one. -/
def lookPlaces (look : Look) (before : Option Char) : List Char → List Bool
  | [] => [look.holds before none]
  | c :: rest => look.holds before (some c) :: lookPlaces look (some c) rest

/-- An atom on a text: the places where it applies, and whether it moves one place on. -/
structure Move where
  places : Nat
  advance : Bool
deriving DecidableEq, Repr

def Atom.on (text : List Char) : Atom → Move
  | chars set => ⟨placesOf (text.map fun c => set.mem c.toNat), true⟩
  | look l => ⟨placesOf (lookPlaces l none text), false⟩

def Move.ends (m : Move) (starts : Nat) : Nat :=
  let reached := starts &&& m.places
  if m.advance then reached <<< 1 else reached

/-- Applies a map of sets `n` times, or fewer times when nothing changes any more. -/
def applyUpTo (f : Nat → Nat) : Nat → Nat → Nat
  | 0, s => s
  | n + 1, s =>
    let next := f s
    if next = s then s else applyUpTo f n next

namespace Expr

mutual

def map {α β : Type} (f : α → β) : Expr α → Expr β
  | .empty => .empty
  | .atom a => .atom (f a)
  | .concat parts => .concat (mapAll f parts)
  | .alternation branches => .alternation (mapAll f branches)
  | .repeated part least most => .repeated (map f part) least most
  | .capture part => .capture (map f part)

def mapAll {α β : Type} (f : α → β) : List (Expr α) → List (Expr β)
  | [] => []
  | part :: rest => map f part :: mapAll f rest

end

mutual

/-- The places where an expression ends that begins in `starts`. `bound` is at least the number of
places. -/
def ends (bound : Nat) : Expr Move → Nat → Nat
  | .empty, starts => starts
  | .atom move, starts => move.ends starts
  | .concat parts, starts => endsOfAll bound parts starts
  | .alternation branches, starts => endsOfAny bound branches starts
  | .repeated part least most, starts =>
    -- First as often as it has to be repeated, and then as often as it may, where every number of
    -- times counts.
    let begun := applyUpTo (ends bound part) (min least bound) starts
    let more := match most with
      | none => bound
      | some most => min (most - least) bound
    applyUpTo (fun reached => reached ||| ends bound part reached) more begun
  | .capture part, starts => ends bound part starts

def endsOfAll (bound : Nat) : List (Expr Move) → Nat → Nat
  | [], starts => starts
  | part :: rest, starts => endsOfAll bound rest (ends bound part starts)

def endsOfAny (bound : Nat) : List (Expr Move) → Nat → Nat
  | [], _ => 0
  | branch :: rest, starts => ends bound branch starts ||| endsOfAny bound rest starts

end

/-- Whether an expression matches somewhere in a text. -/
def foundIn (e : Expr Atom) (text : List Char) : Bool :=
  let places := text.length + 1
  ends places (e.map (Atom.on text)) (1 <<< places - 1) ≠ 0

end Expr

end ImportBoundary.Pattern
