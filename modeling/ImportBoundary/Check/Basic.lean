/-!
# Checks

The three checks of an import and the names under which reports speak of them.
-/

namespace ImportBoundary

inductive Check where
  /-- Imports respect the boundaries of modules. -/
  | modules
  /-- Imports respect the rules of layers. -/
  | layers
  /-- Imports do not hold certain texts. -/
  | bounded
deriving DecidableEq, Repr

namespace Check

/-- The checks in the order in which they run. -/
def all : List Check := [modules, layers, bounded]

def name : Check → String
  | modules => "imports.modules"
  | layers => "imports.layers"
  | bounded => "imports.bounded"

def names : List String := all.map name

def layerCode : String := "layer_violation"

def boundedCode : String := "bounded_import"

end Check

end ImportBoundary
