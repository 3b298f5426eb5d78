import ImportBoundary.Edge
import ImportBoundary.Module.Boundary
import ImportBoundary.Template

/-!
# Layer rules

A layer rule says which paths the files of a layer may import. `LayerRule.applies` picks the files,
`LayerRule.allows` the destinations, and `layerMessages` collects what the rules that apply and do not
allow have to say, each message once.
-/

namespace ImportBoundary

structure LayerDeclaration where
  /-- The files it applies to. Nothing, or the pattern `.*`, means every file. -/
  source : Option String := none
  /-- The paths they may import. -/
  target : List String
  /-- Paths they may not import even so. -/
  except : List String := []
  /-- Whether imports below the file's own directory and within the layer are allowed in any case;
  they are unless the rule says otherwise. -/
  allowChildren : Option Bool := none
  message : Option String := none
deriving DecidableEq, Repr

structure LayerRule where
  source : Option Pattern
  target : List Pattern
  except : List Pattern
  allowChildren : Bool
  message : String

def defaultLayerMessage : String :=
  "A file from layer `\x7bfrom\x7d` cannot import a file from layer `\x7bto\x7d`"

/-! ### Compilation

A pattern that accepts every path is not compiled: it would not say more than no pattern, and the
compiler is not asked whether it is one.
-/

/-- The pattern that is not compiled because it accepts every path. -/
def everyPath : String := ".*"

def LayerDeclaration.compileSource (compile : PatternCompiler) (number : Nat)
    (d : LayerDeclaration) : Except CompileError (Option Pattern) :=
  match d.source with
  | none => .ok none
  | some source =>
    if source = everyPath then .ok none
    else do return some (← compilePattern compile (.layer number) .layerSource source)

/-- Compiles the rule with a given number. -/
def LayerDeclaration.compile (compile : PatternCompiler) (number : Nat) (d : LayerDeclaration) :
    Except CompileError LayerRule := do
  let source ← d.compileSource compile number
  let target ← compilePatterns compile (.layer number) .layerTarget d.target
  let except ← compilePatterns compile (.layer number) .layerExcept d.except
  return ⟨source, target, except, d.allowChildren.getD true, d.message.getD defaultLayerMessage⟩

/-- Compiles rules that are numbered from `number`. -/
def compileLayersFrom (compile : PatternCompiler) (number : Nat) :
    List LayerDeclaration → Except CompileError (List LayerRule)
  | [] => .ok []
  | d :: rest => do
    let rule ← d.compile compile number
    return rule :: (← compileLayersFrom compile (number + 1) rest)

/-- Compiles rules, which are numbered from one. -/
def compileLayers (compile : PatternCompiler) (layers : List LayerDeclaration) :
    Except CompileError (List LayerRule) :=
  compileLayersFrom compile 1 layers

/-! ### Judgement

A rule asks for the destination of an edge only if it applies to the file, so that no destination is
worked out for files that no rule speaks of.
-/

/-- Whether the destination lies below the importing file's directory, or the importing file below
the destination's directory. A bare name, which has no directory, is never a child unless it is
written as a relative import. -/
def Edge.isChild (e : Edge) (d : Destination) : Bool :=
  -- A bare name is a package, or a file at the top of the repository. The text of the import tells
  -- them apart only if it starts with a dot.
  if d.dir?.isNone && !e.isRelative then false
  else d.path.isWithin e.sourceDir || d.dir?.any fun dir => e.source.isWithin dir

namespace LayerRule

/-- Whether a rule speaks of the importing file. -/
def applies (rule : LayerRule) (e : Edge) : Bool :=
  rule.source.all fun p => p.accepts e.source.text

/-- Whether a destination belongs to the layer itself. -/
def ownLayer (rule : LayerRule) (target : String) : Bool :=
  rule.source.any fun p => p.accepts target

/-- Whether a rule allows an edge to lead to a destination. -/
def allows (rule : LayerRule) (e : Edge) (d : Destination) : Bool :=
  (rule.allowChildren && (e.isChild d || rule.ownLayer d.path.text)) ||
    (Pattern.anyAccepts rule.target d.path.text && !Pattern.anyAccepts rule.except d.path.text)

def render (rule : LayerRule) (e : Edge) : String :=
  Template.fill rule.message { source := some e.file, target := some e.importText }

/-- What a rule has to say of an edge. The destination is asked for only if the rule applies. -/
def check (rule : LayerRule) (e : Edge) : StateM Edge.Cell (Option String) :=
  if rule.applies e then do
    let d ← e.demand
    return if rule.allows e d then none else some (rule.render e)
  else pure none

end LayerRule

/-- What rules have to say of an edge, one answer for each rule. -/
def layerAnswers (e : Edge) : List LayerRule → StateM Edge.Cell (List (Option String))
  | [] => pure []
  | rule :: rest => do
    let answer ← rule.check e
    return answer :: (← layerAnswers e rest)

/-- Keeps the first of equal texts. -/
def dropRepeats : List String → List String
  | [] => []
  | s :: rest => s :: (dropRepeats rest).filter (· ≠ s)

/-- The messages of the rules that reject an edge, in the order of the rules and without repeats. -/
def layerMessages (rules : List LayerRule) (e : Edge) : StateM Edge.Cell (List String) := do
  let answers ← layerAnswers e rules
  return dropRepeats (answers.filterMap id)

end ImportBoundary
