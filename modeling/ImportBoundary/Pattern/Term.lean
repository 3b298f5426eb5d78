/-!
# The terms of a pattern

A pattern as it is written: literals, classes, anchors, repetitions, groups and flags, before flags
have been applied and classes have been looked up. `Term.depth` counts how many compound terms stand
inside each other.
-/

namespace ImportBoundary.Pattern

inductive Flag where
  | ignoreCase
  | multiLine
  | dotAll
  | swapGreed
  | unicode
  | carriageReturn
  | verbose
deriving DecidableEq, Repr

/-- A flag setting is a list of flags, in which a minus sign (`none`) turns all that follow off. -/
abbrev FlagSetting := List (Option Flag)

def FlagSetting.value? (flag : Flag) : FlagSetting → Option Bool
  | [] => none
  | none :: rest => if rest.contains (some flag) then some false else none
  | some f :: rest => if f = flag then some true else FlagSetting.value? flag rest

/-- A character of a pattern. One written with two hexadecimal digits can stand for a byte. -/
structure Literal where
  char : Char
  isByte : Bool
deriving DecidableEq, Repr

/-- The places between characters that have to do with words. -/
inductive WordPlace where
  | boundary
  | inside
  | start
  | finish
  | startHalf
  | finishHalf
deriving DecidableEq, Repr

inductive Anchor where
  | lineStart
  | lineEnd
  | textStart
  | textEnd
  | word (place : WordPlace)
deriving DecidableEq, Repr

inductive LetterClass where
  | digit
  | space
  | word
deriving DecidableEq, Repr

inductive PropertyQuery where
  /-- By one name, which may be that of a property, a category or a script. -/
  | named (name : String)
  /-- By the name of a property and one of its values. -/
  | valued (property value : String)
deriving DecidableEq, Repr

inductive ClassOp where
  | intersection
  | difference
  | symmetricDifference
deriving DecidableEq, Repr

mutual

/-- A part of a bracketed class. -/
inductive ClassItem where
  | literal (l : Literal)
  | range (first last : Literal)
  | ascii (negated : Bool) (name : String)
  | property (negated : Bool) (query : PropertyQuery)
  | letter (negated : Bool) (kind : LetterClass)
  | bracket (negated : Bool) (set : ClassSet)

/-- The inside of a bracketed class. -/
inductive ClassSet where
  | union (items : List ClassItem)
  | op (kind : ClassOp) (left right : ClassSet)

end

inductive Term where
  | empty
  | flags (setting : FlagSetting)
  | literal (l : Literal)
  | dot
  | anchor (a : Anchor)
  | property (negated : Bool) (query : PropertyQuery)
  | letter (negated : Bool) (kind : LetterClass)
  | bracket (negated : Bool) (set : ClassSet)
  | repeated (term : Term) (least : Nat) (most : Option Nat)
  | group (capture : Bool) (setting : FlagSetting) (term : Term)
  | alternation (branches : List Term)
  | concat (terms : List Term)

/-- A list of terms in a row, as one term. -/
def Term.ofList : List Term → Term
  | [] => .empty
  | [term] => term
  | terms => .concat terms

def Term.ofBranches : List Term → Term
  | [] => .empty
  | [term] => term
  | terms => .alternation terms

/-! ### Nesting

A bracket counts for itself, and again for the operators in it and for a list of several items.
Characters, dots and anchors do not count.
-/

mutual

def ClassItem.depth : ClassItem → Nat
  | .bracket _ set => set.depth + 1
  | _ => 0

def ClassSet.depth : ClassSet → Nat
  | .union items => classDepth items + if items.length < 2 then 0 else 1
  | .op _ left right => max left.depth right.depth + 1

def classDepth : List ClassItem → Nat
  | [] => 0
  | item :: rest => max item.depth (classDepth rest)

end

mutual

/-- The number of compound terms inside each other. -/
def Term.depth : Term → Nat
  | .bracket _ set => set.depth + 1
  | .repeated term _ _ => term.depth + 1
  | .group _ _ term => term.depth + 1
  | .alternation branches => deepest branches + 1
  | .concat terms => deepest terms + 1
  | _ => 0

def deepest : List Term → Nat
  | [] => 0
  | term :: rest => max term.depth (deepest rest)

end

end ImportBoundary.Pattern
