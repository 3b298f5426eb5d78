/-!
# Faults of a pattern

Why a pattern is refused. The wording is in `Fault.message`.

The two limits on patterns stand next to the faults whose messages name them.
-/

namespace ImportBoundary.Pattern

inductive Fault where
  | unclosedGroup
  | unopenedGroup
  | unclosedClass
  | lookAround
  | backreference
  | unknownEscape
  | unfinishedEscape
  | invalidCode
  | invalidGroupName
  | repeatedGroupName
  | invalidFlags
  | missingOperand
  | invalidCount
  | invalidRange
  | notInClass
  | invalidWordPlace
  | unknownProperty
  | needsUnicode
  | notText
  | tooDeep
  | tooLarge
deriving DecidableEq, Repr

/-- The number of compound terms that may stand inside each other. -/
def maxTermDepth : Nat := 250

/-- The number of bytes that a compiled pattern may take. -/
def maxProgramSize : Nat := 10 * 1024 * 1024

def Fault.reason : Fault → String
  | unclosedGroup => "unclosed group"
  | unopenedGroup => "unopened group"
  | unclosedClass => "unclosed character class"
  | lookAround => "look-around is not supported"
  | backreference => "backreferences are not supported"
  | unknownEscape => "unrecognized escape sequence"
  | unfinishedEscape => "incomplete escape sequence"
  | invalidCode => "invalid hexadecimal code point"
  | invalidGroupName => "invalid capture group name"
  | repeatedGroupName => "duplicate capture group name"
  | invalidFlags => "invalid flags"
  | missingOperand => "repetition operator missing expression"
  | invalidCount => "invalid repetition count"
  | invalidRange => "invalid character class range"
  | notInClass => "not allowed in a character class"
  | invalidWordPlace => "invalid word boundary assertion"
  | unknownProperty => "unknown Unicode property"
  | needsUnicode => "Unicode is not allowed here"
  | notText => "pattern can match invalid UTF-8"
  | tooDeep => s!"more than {maxTermDepth} nested terms"
  | tooLarge => s!"exceeds size limit of {maxProgramSize} bytes."

def Fault.message (fault : Fault) : String :=
  match fault with
  | tooLarge => "Compiled regex " ++ fault.reason
  | _ => "regex parse error: " ++ fault.reason

end ImportBoundary.Pattern
