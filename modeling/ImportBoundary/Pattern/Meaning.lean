import ImportBoundary.Pattern.Error
import ImportBoundary.Pattern.Expr
import ImportBoundary.Unicode.Folding

/-!
# The meaning of a pattern

Terms become expressions: flags are applied from left to right, classes are worked out as sets of
characters, and ignoring case closes a set under case variants. Without the Unicode flag a class
speaks of bytes; since only texts are searched, such a class may hold ASCII characters alone.

The flags in force are handed through a row of terms, since a flag that is switched in the middle of a
group holds for what follows up to the end of the group, across alternatives.
-/

namespace ImportBoundary.Pattern

/-- The flags in force. Laziness and verbose mode have no bearing on what is matched. -/
structure Flags where
  ignoreCase : Bool
  multiLine : Bool
  dotAll : Bool
  unicode : Bool
  carriageReturn : Bool
deriving DecidableEq, Repr

namespace Flags

def initial : Flags := ⟨false, false, false, true, false⟩

def apply (f : Flags) (setting : FlagSetting) : Flags where
  ignoreCase := (setting.value? .ignoreCase).getD f.ignoreCase
  multiLine := (setting.value? .multiLine).getD f.multiLine
  dotAll := (setting.value? .dotAll).getD f.dotAll
  unicode := (setting.value? .unicode).getD f.unicode
  carriageReturn := (setting.value? .carriageReturn).getD f.carriageReturn

/-- A set with its case variants. Without Unicode only letters of ASCII have any. -/
def fold (f : Flags) (set : CharSet) : CharSet :=
  if !f.ignoreCase then set
  else if f.unicode then Unicode.closeUnderCase set
  else
    -- The part of a range among the letters from `first` to `last`, as letters of the other case.
    let shift (r : CharRange) (first last distance : Nat) (up : Bool) : List CharRange :=
      let low := max r.first first
      let high := min r.last last
      if low ≤ high then
        [if up then ⟨low + distance, high + distance⟩ else ⟨low - distance, high - distance⟩]
      else []
    CharSet.ofRanges (set.ranges.flatMap fun r =>
      r :: shift r 0x41 0x5A 32 true ++ shift r 0x61 0x7A 32 false)

/-- A set as a class writes it: with its case variants, and then its complement if it is negated.
Without Unicode a complement would hold bytes that are no characters. -/
def close (f : Flags) (negated : Bool) (set : CharSet) : Except Fault CharSet :=
  let folded := f.fold set
  if !negated then .ok folded
  else if f.unicode then .ok folded.complement
  else .error .notText

end Flags

def LetterClass.set (unicode : Bool) : LetterClass → CharSet
  | digit => if unicode then Unicode.digitChars else ⟨[⟨0x30, 0x39⟩]⟩
  | space => if unicode then Unicode.spaceChars else ⟨[⟨0x9, 0xD⟩, ⟨0x20, 0x20⟩]⟩
  | word => if unicode then Unicode.wordChars else asciiWord

def asciiClass (name : String) : CharSet :=
  match name with
  | "alnum" => ⟨[⟨0x30, 0x39⟩, ⟨0x41, 0x5A⟩, ⟨0x61, 0x7A⟩]⟩
  | "alpha" => ⟨[⟨0x41, 0x5A⟩, ⟨0x61, 0x7A⟩]⟩
  | "ascii" => ⟨[⟨0, 0x7F⟩]⟩
  | "blank" => ⟨[⟨0x9, 0x9⟩, ⟨0x20, 0x20⟩]⟩
  | "cntrl" => ⟨[⟨0, 0x1F⟩, ⟨0x7F, 0x7F⟩]⟩
  | "digit" => ⟨[⟨0x30, 0x39⟩]⟩
  | "graph" => ⟨[⟨0x21, 0x7E⟩]⟩
  | "lower" => ⟨[⟨0x61, 0x7A⟩]⟩
  | "print" => ⟨[⟨0x20, 0x7E⟩]⟩
  | "punct" => ⟨[⟨0x21, 0x2F⟩, ⟨0x3A, 0x40⟩, ⟨0x5B, 0x60⟩, ⟨0x7B, 0x7E⟩]⟩
  | "space" => ⟨[⟨0x9, 0xD⟩, ⟨0x20, 0x20⟩]⟩
  | "upper" => ⟨[⟨0x41, 0x5A⟩]⟩
  | "word" => asciiWord
  | "xdigit" => ⟨[⟨0x30, 0x39⟩, ⟨0x41, 0x46⟩, ⟨0x61, 0x66⟩]⟩
  | _ => .empty

def PropertyQuery.set? : PropertyQuery → Option CharSet
  | named name => Unicode.byName? name
  | valued property value => Unicode.byValue? property value

def propertySet (f : Flags) (negated : Bool) (query : PropertyQuery) : Except Fault CharSet :=
  if !f.unicode then .error .needsUnicode
  else match query.set? with
    | none => .error .unknownProperty
    | some set => f.close negated set

/-- The set of a class with a letter. It is closed under case as it is. -/
def letterSet (f : Flags) (negated : Bool) (kind : LetterClass) : Except Fault CharSet :=
  let set := kind.set f.unicode
  if !negated then .ok set
  else if f.unicode then .ok set.complement
  else .error .notText

/-- The character of a literal. Without Unicode two hexadecimal digits stand for a byte, which has
to be an ASCII character. -/
def Literal.charIn (f : Flags) (l : Literal) : Except Fault Char :=
  if !f.unicode && l.isByte && l.char.toNat > 0x7F then .error .notText else .ok l.char

/-- The character of a literal in a class. Without Unicode it has to be an ASCII character. -/
def Literal.charInClass (f : Flags) (l : Literal) : Except Fault Char := do
  let c ← l.charIn f
  if !f.unicode && c.toNat > 0x7F then .error .needsUnicode else .ok c

mutual

def ClassItem.set (f : Flags) : ClassItem → Except Fault CharSet
  | .literal l => do
    let c ← l.charInClass f
    return ⟨[.single c.toNat]⟩
  | .range first last => do
    let first ← first.charInClass f
    let last ← last.charInClass f
    return ⟨[⟨first.toNat, last.toNat⟩]⟩
  | .ascii negated name => f.close negated (asciiClass name)
  | .property negated query => propertySet f negated query
  | .letter negated kind => letterSet f negated kind
  | .bracket negated set => do
    let set ← set.set f
    f.close negated set

def ClassSet.set (f : Flags) : ClassSet → Except Fault CharSet
  | .union items => do
    let sets ← itemSets f items
    return CharSet.ofRanges (sets.flatMap CharSet.ranges)
  | .op kind left right => do
    let left := f.fold (← left.set f)
    let right := f.fold (← right.set f)
    return match kind with
      | .intersection => left.inter right
      | .difference => left.difference right
      | .symmetricDifference => left.symmetricDifference right

def itemSets (f : Flags) : List ClassItem → Except Fault (List CharSet)
  | [] => .ok []
  | item :: rest => do
    let set ← item.set f
    return set :: (← itemSets f rest)

end

/-- What a dot matches: any character, except for those that end a line. -/
def dotSet (f : Flags) : Except Fault CharSet :=
  if !f.unicode then .error .notText
  else if f.dotAll then .ok .all
  else if f.carriageReturn then .ok (CharSet.ofChars ['\n', '\r']).complement
  else .ok (CharSet.ofChars ['\n']).complement

def Anchor.look (f : Flags) : Anchor → Look
  | lineStart =>
    if !f.multiLine then .textStart else if f.carriageReturn then .lineStartCrlf else .lineStart
  | lineEnd => if !f.multiLine then .textEnd else if f.carriageReturn then .lineEndCrlf else .lineEnd
  | textStart => .textStart
  | textEnd => .textEnd
  | word place => .word place f.unicode

/-! ### Compound expressions

An expression is put together in as few parts as its meaning allows. A row of rows is one row, and a
part that matches nothing but the empty text and asks for nothing is left out of it. A choice among
choices is one choice, and one between characters, or between classes, is a class: `(?:a|b)` is `[ab]`.
What is not written down here cannot be told apart later, when the size of the expression decides
whether the pattern is accepted.
-/

namespace Expr

def partsOf : Expr Atom → List (Expr Atom)
  | .empty => []
  | .concat parts => parts
  | e => [e]

def row (parts : List (Expr Atom)) : Expr Atom :=
  match parts.flatMap partsOf with
  | [] => .empty
  | [e] => e
  | flat => .concat flat

def branchesOf : Expr Atom → List (Expr Atom)
  | .alternation branches => branches
  | e => [e]

def set? : Expr Atom → Option CharSet
  | .atom (.chars set) => some set
  | _ => none

/-- A choice between expressions. A choice between a character and a class stays what it is. -/
def choice (branches : List (Expr Atom)) : Expr Atom :=
  let flat := branches.flatMap branchesOf
  match flat.mapM set? with
  | none => .alternation flat
  | some sets =>
    if sets.all CharSet.isSingle || !sets.any CharSet.isSingle then
      .atom (.chars (.ofRanges (sets.flatMap CharSet.ranges)))
    else .alternation flat

end Expr

mutual

/-- The expression of a term, and the flags behind it. A group keeps its flags to itself. -/
def Term.meaning (f : Flags) : Term → Except Fault (Expr Atom × Flags)
  | .empty => .ok (.empty, f)
  | .flags setting => .ok (.empty, f.apply setting)
  | .literal l => do
    let c ← l.charIn f
    return (.atom (.chars (f.fold ⟨[.single c.toNat]⟩)), f)
  | .dot => do return (.atom (.chars (← dotSet f)), f)
  | .anchor a => .ok (.atom (.look (a.look f)), f)
  | .property negated query => do return (.atom (.chars (← propertySet f negated query)), f)
  | .letter negated kind => do return (.atom (.chars (← letterSet f negated kind)), f)
  | .bracket negated set => do
    let set ← set.set f
    return (.atom (.chars (← f.close negated set)), f)
  | .repeated term least most => do
    let (part, f) ← term.meaning f
    return (.repeated part least most, f)
  | .group capture setting term => do
    let (part, _) ← term.meaning (f.apply setting)
    return (if capture then .capture part else part, f)
  | .alternation branches => do
    let (parts, f) ← meanings f branches
    return (.choice parts, f)
  | .concat terms => do
    let (parts, f) ← meanings f terms
    return (.row parts, f)

/-- The expressions of terms, each under the flags behind the one before it. -/
def meanings (f : Flags) : List Term → Except Fault (List (Expr Atom) × Flags)
  | [] => .ok ([], f)
  | term :: rest => do
    let (part, f) ← term.meaning f
    let (parts, f) ← meanings f rest
    return (part :: parts, f)

end

end ImportBoundary.Pattern
