import ImportBoundary.Pattern.Meaning
import ImportBoundary.Pattern.Parser
import ImportBoundary.Pattern.Size

/-!
# Patterns

A pattern is a path predicate written as a regular expression. It is compiled once, which is when a
fault in it shows, and matches a path when it matches anywhere in it.

Matching cannot fail and looks at the whole text, so a pattern stands for a set of texts. Nothing about
module boundaries depends on how the set is given, and the rest of the library takes the compiler of
patterns as a parameter where it can.
-/

namespace ImportBoundary

structure Pattern where
  /-- The pattern as written. -/
  source : String
  expr : Pattern.Expr Pattern.Atom

structure PatternError where
  source : String
  fault : Pattern.Fault
deriving DecidableEq, Repr

namespace PatternError

def summary (e : PatternError) : String := "invalid regex pattern '" ++ e.source ++ "'"

def message (e : PatternError) : String := e.summary ++ ": " ++ e.fault.message

end PatternError

namespace Pattern

/-- The expression of a pattern. -/
def exprOf (source : String) : Except Fault (Expr Atom) := do
  let term ← Term.parse source
  let (expr, _) ← term.meaning .initial
  if expr.size + Expr.frameSize ≤ maxProgramSize then .ok expr else .error .tooLarge

def compile (source : String) : Except PatternError Pattern :=
  match exprOf source with
  | .ok expr => .ok ⟨source, expr⟩
  | .error fault => .error ⟨source, fault⟩

/-- Compiles patterns in order; the first one that fails decides. -/
def compileAll : List String → Except PatternError (List Pattern)
  | [] => .ok []
  | source :: rest => do
    let pattern ← compile source
    return pattern :: (← compileAll rest)

/-- Whether a pattern matches somewhere in a path. -/
def accepts (p : Pattern) (path : String) : Bool := p.expr.foundIn path.toList

def anyAccepts (patterns : List Pattern) (path : String) : Bool := patterns.any fun p => p.accepts path

end Pattern

end ImportBoundary
