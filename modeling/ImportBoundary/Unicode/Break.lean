import ImportBoundary.Unicode.CharSet

/-!
# Where text may be broken

Three properties tell apart the characters that matter for the ends of what a reader takes for one
character, of words and of sentences. Each has a list of its values and a table of run lengths; code
points without a value of interest have the label `XX`. The data are those of Unicode 15.
-/

namespace ImportBoundary.Unicode

structure BreakProperty where
  /-- The names of its values, in lower case and without separators, with their labels. -/
  values : List (List String × String)
  /-- The labels of all code points in order, as run lengths. -/
  runs : String

def BreakProperty.ofValue? (p : BreakProperty) (name : String) : Option CharSet :=
  (p.values.find? fun entry => entry.1.contains name).map fun entry =>
    CharSet.ofLabelledRuns [entry.2] p.runs

/-! ### Characters as readers see them -/

/-- The values that matter for the ends of grapheme clusters. -/
def graphemeValues : List (List String × String) := [
  (["cn", "control"], "CN"),
  (["cr"], "CR"),
  (["ex", "extend"], "EX"),
  (["l"], "L"),
  (["lf"], "LF"),
  (["lv"], "LV"),
  (["lvt"], "LVT"),
  (["pp", "prepend"], "PP"),
  (["ri", "regionalindicator"], "RI"),
  (["sm", "spacingmark"], "SM"),
  (["t"], "T"),
  (["v"], "V"),
  (["zwj"], "ZWJ")]

/-- The values of all code points, as run lengths. -/
def graphemeRuns : String :=
  "aCN 1LF 2CN 1CR 12CN 5fXX 21CN dXX 1CN 252XX 70EX 113XX 7EX 107XX 2dEX 1XX 1EX 1XX 2EX 1XX 2EX
   1XX 1EX 38XX 6PP aXX bEX 1XX 1CN 2eXX 15EX 10XX 1EX 65XX 7EX 1PP 1XX 6EX 2XX 2EX 1XX 4EX 21XX
   1PP 1XX 1EX 1eXX 1bEX 5bXX bEX 3aXX 9EX 9XX 1EX 18XX 4EX 1XX 9EX 1XX 3EX 1XX 5EX 2bXX 3EX 34XX
   2PP 6XX 8EX 2aXX 18EX 1PP 20EX 1SM 36XX 1EX 1SM 1EX 1XX 3SM 8EX 4SM 1EX 2SM 1XX 7EX aXX 2EX 1dXX
   1EX 2SM 38XX 1EX 1XX 1EX 2SM 4EX 2XX 2SM 2XX 2SM 1EX 9XX 1EX aXX 2EX 1aXX 1EX 2XX 2EX 1SM 38XX
   1EX 1XX 3SM 2EX 4XX 2EX 2XX 3EX 3XX 1EX 1eXX 2EX 3XX 1EX bXX 2EX 1SM 38XX 1EX 1XX 3SM 5EX 1XX
   2EX 1SM 1XX 2SM 1EX 14XX 2EX 16XX 6EX 1XX 1EX 2SM 38XX 1EX 1XX 2EX 1SM 4EX 2XX 2SM 2XX 2SM 1EX
   7XX 3EX aXX 2EX 1eXX 1EX 3bXX 1EX 1SM 1EX 2SM 3XX 3SM 1XX 3SM 1EX 9XX 1EX 28XX 1EX 3SM 1EX 37XX
   1EX 1XX 3EX 4SM 1XX 3EX 1XX 4EX 7XX 2EX bXX 2EX 1dXX 1EX 2SM 38XX 1EX 1XX 1SM 1EX 2SM 1EX 2SM
   1XX 1EX 2SM 1XX 2SM 2EX 7XX 2EX bXX 2EX fXX 1SM cXX 2EX 2SM 37XX 2EX 1XX 1EX 2SM 4EX 1XX 3SM 1XX
   3SM 1EX 1PP 8XX 1EX aXX 2EX 1dXX 1EX 2SM 46XX 1EX 4XX 1EX 2SM 3EX 1XX 1EX 1XX 7SM 1EX 12XX 2SM
   3dXX 1EX 1XX 1SM 7EX cXX 8EX 62XX 1EX 1XX 1SM 9EX bXX 7EX 49XX 2EX 1bXX 1EX 1XX 1EX 1XX 1EX 4XX
   2SM 31XX eEX 1SM 5EX 1XX 2EX 5XX bEX 1XX 24EX 9XX 1EX 66XX 4EX 1SM 6EX 1XX 2EX 2SM 2EX 17XX 2SM
   2EX 4XX 3EX 10XX 4EX dXX 1EX 1XX 1SM 2EX 6XX 1EX fXX 1EX 62XX 60L 48V 58T 15dXX 3EX 3b2XX 3EX
   1SM 1cXX 2EX 1SM 1dXX 2EX 1eXX 2EX 40XX 2EX 1SM 7EX 8SM 1EX 2SM bEX 9XX 1EX 2dXX 3EX 1CN 1EX
   75XX 2EX 22XX 1EX 76XX 3EX 4SM 2EX 3SM 4XX 2SM 1EX 6SM 3EX dbXX 2EX 2SM 1EX 39XX 1SM 1EX 1SM 7EX
   1XX 1EX 1XX 1EX 2XX 8EX 6SM aEX 2XX 1EX 30XX 1fEX 31XX 4EX 1SM 2fXX 7EX 1SM 1EX 5SM 1EX 2SM 26XX
   9EX cXX 2EX 1SM 1eXX 1SM 4EX 2SM 2EX 1SM 3EX 38XX 1EX 1SM 2EX 3SM 1EX 1SM 3EX 2SM 30XX 8SM 8EX
   2SM 2EX 98XX 3EX 1XX dEX 1SM 7EX 4XX 1EX 6XX 1EX 2XX 1SM 2EX c6XX 40EX 20bXX 1CN 1EX 1ZWJ 2CN
   18XX 7CN 31XX 10CN 60XX 21EX bfeXX 3EX 8dXX 1EX 60XX 20EX 22aXX 6EX 69XX 2EX 75d4XX 4EX 1XX aEX
   20XX 2EX 50XX 2EX 110XX 1EX 3XX 1EX 4XX 1EX 17XX 2SM 2EX 1SM 4XX 1EX 53XX 2SM 32XX 10SM 2EX 1aXX
   12EX dXX 1EX 26XX 8EX 19XX bEX 2SM cXX 1dL 3XX 3EX 1SM 2fXX 1EX 2SM 4EX 2SM 2EX 3SM 24XX 1EX
   43XX 6EX 2SM 2EX 2SM 2EX cXX 1EX 8XX 1EX 1SM 2eXX 1EX 33XX 1EX 1XX 3EX 2XX 2EX 5XX 2EX 1XX 1EX
   29XX 1SM 2EX 2SM 5XX 1SM 1EX ecXX 2SM 1EX 2SM 1EX 2SM 1XX 1SM 1EX 12XX 1LV 1bLVT 1LV 1bLVT 1LV
   1bLVT 1LV 1bLVT 1LV 1bLVT 1LV 1bLVT 1LV 1bLVT 1LV 1bLVT 1LV 1bLVT 1LV 1bLVT 1LV 1bLVT 1LV 1bLVT
   1LV 1bLVT 1LV 1bLVT 1LV 1bLVT 1LV 1bLVT 1LV 1bLVT 1LV 1bLVT 1LV 1bLVT 1LV 1bLVT 1LV 1bLVT 1LV
   1bLVT 1LV 1bLVT 1LV 1bLVT 1LV 1bLVT 1LV 1bLVT 1LV 1bLVT 1LV 1bLVT 1LV 1bLVT 1LV 1bLVT 1LV 1bLVT
   1LV 1bLVT 1LV 1bLVT 1LV 1bLVT 1LV 1bLVT 1LV 1bLVT 1LV 1bLVT 1LV 1bLVT 1LV 1bLVT 1LV 1bLVT 1LV
   1bLVT 1LV 1bLVT 1LV 1bLVT 1LV 1bLVT 1LV 1bLVT 1LV 1bLVT 1LV 1bLVT 1LV 1bLVT 1LV 1bLVT 1LV 1bLVT
   1LV 1bLVT 1LV 1bLVT 1LV 1bLVT 1LV 1bLVT 1LV 1bLVT 1LV 1bLVT 1LV 1bLVT 1LV 1bLVT 1LV 1bLVT 1LV
   1bLVT 1LV 1bLVT 1LV 1bLVT 1LV 1bLVT 1LV 1bLVT 1LV 1bLVT 1LV 1bLVT 1LV 1bLVT 1LV 1bLVT 1LV 1bLVT
   1LV 1bLVT 1LV 1bLVT 1LV 1bLVT 1LV 1bLVT 1LV 1bLVT 1LV 1bLVT 1LV 1bLVT 1LV 1bLVT 1LV 1bLVT 1LV
   1bLVT 1LV 1bLVT 1LV 1bLVT 1LV 1bLVT 1LV 1bLVT 1LV 1bLVT 1LV 1bLVT 1LV 1bLVT 1LV 1bLVT 1LV 1bLVT
   1LV 1bLVT 1LV 1bLVT 1LV 1bLVT 1LV 1bLVT 1LV 1bLVT 1LV 1bLVT 1LV 1bLVT 1LV 1bLVT 1LV 1bLVT 1LV
   1bLVT 1LV 1bLVT 1LV 1bLVT 1LV 1bLVT 1LV 1bLVT 1LV 1bLVT 1LV 1bLVT 1LV 1bLVT 1LV 1bLVT 1LV 1bLVT
   1LV 1bLVT 1LV 1bLVT 1LV 1bLVT 1LV 1bLVT 1LV 1bLVT 1LV 1bLVT 1LV 1bLVT 1LV 1bLVT 1LV 1bLVT 1LV
   1bLVT 1LV 1bLVT 1LV 1bLVT 1LV 1bLVT 1LV 1bLVT 1LV 1bLVT 1LV 1bLVT 1LV 1bLVT 1LV 1bLVT 1LV 1bLVT
   1LV 1bLVT 1LV 1bLVT 1LV 1bLVT 1LV 1bLVT 1LV 1bLVT 1LV 1bLVT 1LV 1bLVT 1LV 1bLVT 1LV 1bLVT 1LV
   1bLVT 1LV 1bLVT 1LV 1bLVT 1LV 1bLVT 1LV 1bLVT 1LV 1bLVT 1LV 1bLVT 1LV 1bLVT 1LV 1bLVT 1LV 1bLVT
   1LV 1bLVT 1LV 1bLVT 1LV 1bLVT 1LV 1bLVT 1LV 1bLVT 1LV 1bLVT 1LV 1bLVT 1LV 1bLVT 1LV 1bLVT 1LV
   1bLVT 1LV 1bLVT 1LV 1bLVT 1LV 1bLVT 1LV 1bLVT 1LV 1bLVT 1LV 1bLVT 1LV 1bLVT 1LV 1bLVT 1LV 1bLVT
   1LV 1bLVT 1LV 1bLVT 1LV 1bLVT 1LV 1bLVT 1LV 1bLVT 1LV 1bLVT 1LV 1bLVT 1LV 1bLVT 1LV 1bLVT 1LV
   1bLVT 1LV 1bLVT 1LV 1bLVT 1LV 1bLVT 1LV 1bLVT 1LV 1bLVT 1LV 1bLVT 1LV 1bLVT 1LV 1bLVT 1LV 1bLVT
   1LV 1bLVT 1LV 1bLVT 1LV 1bLVT 1LV 1bLVT 1LV 1bLVT 1LV 1bLVT 1LV 1bLVT 1LV 1bLVT 1LV 1bLVT 1LV
   1bLVT 1LV 1bLVT 1LV 1bLVT 1LV 1bLVT 1LV 1bLVT 1LV 1bLVT 1LV 1bLVT 1LV 1bLVT 1LV 1bLVT 1LV 1bLVT
   1LV 1bLVT 1LV 1bLVT 1LV 1bLVT 1LV 1bLVT 1LV 1bLVT 1LV 1bLVT 1LV 1bLVT 1LV 1bLVT 1LV 1bLVT 1LV
   1bLVT 1LV 1bLVT 1LV 1bLVT 1LV 1bLVT 1LV 1bLVT 1LV 1bLVT 1LV 1bLVT 1LV 1bLVT 1LV 1bLVT 1LV 1bLVT
   1LV 1bLVT 1LV 1bLVT 1LV 1bLVT 1LV 1bLVT 1LV 1bLVT 1LV 1bLVT 1LV 1bLVT 1LV 1bLVT 1LV 1bLVT 1LV
   1bLVT 1LV 1bLVT 1LV 1bLVT 1LV 1bLVT 1LV 1bLVT 1LV 1bLVT 1LV 1bLVT 1LV 1bLVT 1LV 1bLVT 1LV 1bLVT
   1LV 1bLVT 1LV 1bLVT 1LV 1bLVT 1LV 1bLVT 1LV 1bLVT 1LV 1bLVT 1LV 1bLVT 1LV 1bLVT 1LV 1bLVT 1LV
   1bLVT 1LV 1bLVT 1LV 1bLVT 1LV 1bLVT 1LV 1bLVT 1LV 1bLVT 1LV 1bLVT 1LV 1bLVT 1LV 1bLVT 1LV 1bLVT
   1LV 1bLVT 1LV 1bLVT 1LV 1bLVT 1LV 1bLVT 1LV 1bLVT 1LV 1bLVT 1LV 1bLVT 1LV 1bLVT 1LV 1bLVT 1LV
   1bLVT 1LV 1bLVT 1LV 1bLVT 1LV 1bLVT 1LV 1bLVT 1LV 1bLVT 1LV 1bLVT 1LV 1bLVT 1LV 1bLVT 1LV 1bLVT
   1LV 1bLVT 1LV 1bLVT 1LV 1bLVT 1LV 1bLVT 1LV 1bLVT 1LV 1bLVT 1LV 1bLVT 1LV 1bLVT 1LV 1bLVT 1LV
   1bLVT 1LV 1bLVT 1LV 1bLVT 1LV 1bLVT 1LV 1bLVT 1LV 1bLVT 1LV 1bLVT 1LV 1bLVT 1LV 1bLVT 1LV 1bLVT
   1LV 1bLVT 1LV 1bLVT 1LV 1bLVT 1LV 1bLVT 1LV 1bLVT 1LV 1bLVT 1LV 1bLVT 1LV 1bLVT 1LV 1bLVT 1LV
   1bLVT 1LV 1bLVT 1LV 1bLVT 1LV 1bLVT 1LV 1bLVT 1LV 1bLVT 1LV 1bLVT 1LV 1bLVT 1LV 1bLVT 1LV 1bLVT
   1LV 1bLVT 1LV 1bLVT 1LV 1bLVT 1LV 1bLVT 1LV 1bLVT 1LV 1bLVT 1LV 1bLVT 1LV 1bLVT 1LV 1bLVT 1LV
   1bLVT 1LV 1bLVT 1LV 1bLVT 1LV 1bLVT 1LV 1bLVT 1LV 1bLVT 1LV 1bLVT 1LV 1bLVT 1LV 1bLVT 1LV 1bLVT
   1LV 1bLVT 1LV 1bLVT 1LV 1bLVT 1LV 1bLVT 1LV 1bLVT 1LV 1bLVT 1LV 1bLVT 1LV 1bLVT 1LV 1bLVT 1LV
   1bLVT 1LV 1bLVT 1LV 1bLVT 1LV 1bLVT 1LV 1bLVT 1LV 1bLVT 1LV 1bLVT 1LV 1bLVT 1LV 1bLVT 1LV 1bLVT
   1LV 1bLVT 1LV 1bLVT 1LV 1bLVT 1LV 1bLVT 1LV 1bLVT 1LV 1bLVT 1LV 1bLVT 1LV 1bLVT 1LV 1bLVT 1LV
   1bLVT 1LV 1bLVT 1LV 1bLVT 1LV 1bLVT 1LV 1bLVT 1LV 1bLVT 1LV 1bLVT 1LV 1bLVT 1LV 1bLVT 1LV 1bLVT
   1LV 1bLVT 1LV 1bLVT 1LV 1bLVT 1LV 1bLVT 1LV 1bLVT 1LV 1bLVT 1LV 1bLVT 1LV 1bLVT 1LV 1bLVT 1LV
   1bLVT 1LV 1bLVT 1LV 1bLVT 1LV 1bLVT 1LV 1bLVT 1LV 1bLVT 1LV 1bLVT 1LV 1bLVT 1LV 1bLVT 1LV 1bLVT
   1LV 1bLVT 1LV 1bLVT 1LV 1bLVT 1LV 1bLVT 1LV 1bLVT 1LV 1bLVT 1LV 1bLVT cXX 17V 4XX 31T 2322XX 1EX
   2e1XX 10EX 10XX 10EX cfXX 1CN 9eXX 2EX 50XX cCN 201XX 1EX e2XX 1EX 95XX 5EX 686XX 3EX 1XX 2EX
   5XX 4EX 28XX 3EX 4XX 1EX a5XX 2EX 23dXX 4EX 183XX 2EX 50XX 3EX 46XX bEX 31XX 4EX 7aXX 1SM 1EX
   1SM 35XX fEX 29XX 1EX 2XX 2EX aXX 3EX 1SM 2dXX 3SM 4EX 2SM 2EX 2XX 1PP 4XX 1EX aXX 1PP 32XX 3EX
   24XX 5EX 1SM 8EX 10XX 2SM 2cXX 1EX cXX 2EX 1SM 30XX 3SM 9EX 2SM 1XX 2PP 5XX 4EX 1XX 1SM 1EX 5cXX
   3SM 3EX 2SM 1EX 1SM 2EX 6XX 1EX 2XX 1EX 9dXX 1EX 3SM 8EX 15XX 2EX 2SM 37XX 2EX 1XX 1EX 1SM 1EX
   4SM 2XX 2SM 2XX 3SM 9XX 1EX aXX 2SM 2XX 7EX 3XX 5EX c0XX 3SM 8EX 2SM 3EX 1SM 1EX 17XX 1EX 51XX
   1EX 2SM 6EX 1SM 1EX 2SM 1EX 1SM 2EX 1SM 2EX ebXX 1EX 2SM 4EX 2XX 4SM 2EX 1SM 2EX 1bXX 2EX 52XX
   3SM 8EX 2SM 1EX 1SM 2EX 6aXX 1EX 1SM 1EX 2SM 6EX 1SM 1EX 65XX 3EX 2XX 4EX 1SM 5EX 100XX 3SM 9EX
   1SM 2EX f5XX 1EX 5SM 1XX 2SM 2XX 2EX 1SM 1EX 1PP 1SM 1PP 1SM 1EX 8dXX 3SM 4EX 2XX 2EX 4SM 1EX
   3XX 1SM 1cXX aEX 28XX 6EX 1SM 1PP 4EX 8XX 1EX 9XX 6EX 2SM 3EX 28XX 6PP dEX 1SM 2EX 195XX 1SM 7EX
   1XX 6EX 1SM 1EX 52XX 16EX 1XX 1SM 7EX 1SM 2EX 1SM 2EX 7aXX 6EX 3XX 1EX 1XX 2EX 1XX 7EX 1PP 1EX
   42XX 5SM 1XX 2EX 1XX 2SM 1EX 1SM 1EX 15bXX 2EX 2SM 9XX 2EX 1PP 1SM 30XX 2SM 5EX 3XX 2SM 1EX 1SM
   1EX 14edXX 10CN 1EX 6XX fEX 369aXX 5EX 3bXX 7EX 418XX 1EX 1XX 37SM 7XX 4EX 51XX 1EX bXX 2SM
   4cabXX 2EX 1XX 4CN 125cXX 2eEX 2XX 17EX 21eXX 1EX 1SM 3EX 3XX 1SM 5EX 8CN 8EX 2XX 7EX 1eXX 4EX
   94XX 3EX 7bbXX 37EX 4XX 32EX 8XX 1EX eXX 1EX 16XX 5EX 1XX fEX 550XX 7EX 1XX 11EX 2XX 7EX 1XX 2EX
   1XX 5EX 64XX 1EX a0XX 7EX 177XX 1EX 3dXX 4EX 1fcXX 4EX 3e0XX 7EX 6dXX 7EX 89bXX 1aRI 1fbXX 5EX
   c0c00XX 20CN 60EX 80CN f0EX e10CN 2f000XX"

def graphemeBreak : BreakProperty := ⟨graphemeValues, graphemeRuns⟩

/-! ### Words -/

def wordValues : List (List String × String) := [
  (["cr"], "CR"),
  (["dq", "doublequote"], "DQ"),
  (["ex", "extendnumlet"], "NL"),
  (["extend"], "EX"),
  (["fo", "format"], "FO"),
  (["hl", "hebrewletter"], "HL"),
  (["ka", "katakana"], "KA"),
  (["le", "aletter"], "LE"),
  (["lf"], "LF"),
  (["mb", "midnumlet"], "MB"),
  (["ml", "midletter"], "ML"),
  (["mn", "midnum"], "MN"),
  (["nl", "newline"], "BR"),
  (["nu", "numeric"], "NU"),
  (["ri", "regionalindicator"], "RI"),
  (["sq", "singlequote"], "SQ"),
  (["wsegspace"], "WS"),
  (["zwj"], "ZWJ")]

def wordRuns : String :=
  "aXX 1LF 2BR 1CR 12XX 1WS 1XX 1DQ 4XX 1SQ 4XX 1MN 1XX 1MB 1XX aNU 1ML 1MN 5XX 1aLE 4XX 1NL 1XX
   1aLE aXX 1BR 24XX 1LE 2XX 1FO 7XX 1LE 1XX 1ML 2XX 1LE 5XX 17LE 1XX 1fLE 1XX 1e0LE 6XX 22LE 70EX
   5LE 1XX 2LE 2XX 4LE 1MN 1LE 6XX 1LE 1ML 3LE 1XX 1LE 1XX 14LE 1XX 53LE 1XX 8bLE 1XX 7EX a6LE 1XX
   26LE 2XX 4LE 1XX 1LE 1ML 29LE 1MN 1LE 6XX 2dEX 1XX 1EX 1XX 2EX 1XX 2EX 1XX 1EX 8XX 1bHL 4XX 4HL
   1LE 1ML bXX 6FO 6XX 2MN 2XX bEX 1XX 1FO 3XX 2bLE 15EX aNU 1XX 1NU 1MN 1XX 2LE 1EX 63LE 1XX 1LE
   7EX 1FO 1XX 6EX 2LE 2EX 1XX 4EX 2LE aNU 3LE 2XX 1LE fXX 1FO 1LE 1EX 1eLE 1bEX 2XX 59LE bEX 1LE
   eXX aNU 21LE 9EX 2LE 2XX 1MN 1XX 1LE 2XX 1EX 2XX 16LE 4EX 1LE 9EX 1LE 3EX 1LE 5EX 12XX 19LE 3EX
   4XX bLE 5XX 18LE 1XX 6LE 1XX 2FO 6XX 8EX 2aLE 18EX 1FO 21EX 36LE 3EX 1LE 12EX 1LE 7EX aLE 2EX
   2XX aNU 1XX 10LE 3EX 1XX 8LE 2XX 2LE 2XX 16LE 1XX 7LE 1XX 1LE 3XX 4LE 2XX 1EX 1LE 7EX 2XX 2EX
   2XX 3EX 1LE 8XX 1EX 4XX 2LE 1XX 3LE 2EX 2XX aNU 2LE aXX 1LE 1XX 1EX 2XX 3EX 1XX 6LE 4XX 2LE 2XX
   16LE 1XX 7LE 1XX 2LE 1XX 2LE 1XX 2LE 2XX 1EX 1XX 5EX 4XX 2EX 2XX 3EX 3XX 1EX 7XX 4LE 1XX 1LE 7XX
   aNU 2EX 3LE 1EX bXX 3EX 1XX 9LE 1XX 3LE 1XX 16LE 1XX 7LE 1XX 2LE 1XX 5LE 2XX 1EX 1LE 8EX 1XX 3EX
   1XX 3EX 2XX 1LE fXX 2LE 2EX 2XX aNU 9XX 1LE 6EX 1XX 3EX 1XX 8LE 2XX 2LE 2XX 16LE 1XX 7LE 1XX 2LE
   1XX 5LE 2XX 1EX 1LE 7EX 2XX 2EX 2XX 3EX 7XX 3EX 4XX 2LE 1XX 3LE 2EX 2XX aNU 1XX 1LE 10XX 1EX 1LE
   1XX 6LE 3XX 3LE 1XX 4LE 3XX 2LE 1XX 1LE 1XX 2LE 3XX 2LE 3XX 3LE 3XX cLE 4XX 5EX 3XX 3EX 1XX 4EX
   2XX 1LE 6XX 1EX eXX aNU 10XX 5EX 8LE 1XX 3LE 1XX 17LE 1XX 10LE 2XX 1EX 1LE 7EX 1XX 3EX 1XX 4EX
   7XX 2EX 1XX 3LE 2XX 1LE 2XX 2LE 2EX 2XX aNU 10XX 1LE 3EX 1XX 8LE 1XX 3LE 1XX 17LE 1XX aLE 1XX
   5LE 2XX 1EX 1LE 7EX 1XX 3EX 1XX 4EX 7XX 2EX 6XX 2LE 1XX 2LE 2EX 2XX aNU 1XX 2LE 1EX cXX 4EX 9LE
   1XX 3LE 1XX 29LE 2EX 1LE 7EX 1XX 3EX 1XX 4EX 1LE 5XX 3LE 1EX 7XX 3LE 2EX 2XX aNU aXX 6LE 1XX 3EX
   1XX 12LE 3XX 18LE 1XX 9LE 1XX 1LE 2XX 7LE 3XX 1EX 4XX 6EX 1XX 1EX 1XX 8EX 6XX aNU 2XX 2EX 3dXX
   1EX 2XX 7EX cXX 8EX 1XX aNU 57XX 1EX 2XX 9EX bXX 7EX 1XX aNU 26XX 1LE 17XX 2EX 6XX aNU bXX 1EX
   1XX 1EX 1XX 1EX 4XX 2EX 8LE 1XX 24LE 4XX 14EX 1XX 2EX 5LE bEX 1XX 24EX 9XX 1EX 64XX 14EX 1XX aNU
   cXX 4EX 4XX 3EX 1XX 3EX 2XX 7EX 3XX 4EX dXX cEX 1XX 1EX aNU 4EX 2XX 26LE 1XX 1LE 5XX 1LE 2XX
   2bLE 1XX 14dLE 1XX 4LE 2XX 7LE 1XX 1LE 1XX 4LE 2XX 29LE 1XX 4LE 2XX 21LE 1XX 4LE 2XX 7LE 1XX 1LE
   1XX 4LE 2XX fLE 1XX 39LE 1XX 4LE 2XX 43LE 2XX 3EX 20XX 10LE 10XX 56LE 2XX 6LE 3XX 26cLE 2XX 11LE
   1WS 1aLE 5XX 4bLE 3XX bLE 7XX 12LE 4EX 9XX 13LE 3EX bXX 12LE 2EX cXX dLE 1XX 3LE 1XX 2EX 40XX
   20EX 9XX 1EX 2XX aNU 21XX 3EX 1FO 1EX aNU 6XX 59LE 7XX 5LE 2EX 22LE 1EX 1LE 5XX 46LE aXX 1fLE
   1XX cEX 4XX cEX aXX aNU 80XX aNU 26XX 17LE 5EX 39XX aEX 1XX 1dEX 2XX 1EX aNU 6XX aNU 16XX 1fEX
   31XX 5EX 2fLE 11EX 8LE 3XX aNU 11XX 9EX cXX 3EX 1eLE dEX 2LE aNU 2cLE eEX cXX 24LE 14EX 8XX aNU
   3XX 3LE aNU 24LE 2XX 9LE 7XX 2bLE 2XX 3LE 10XX 3EX 1XX 15EX 4LE 1EX 6LE 1EX 2LE 3EX 1LE 5XX c0LE
   40EX 116LE 2XX 6LE 2XX 26LE 2XX 6LE 2XX 8LE 1XX 1LE 1XX 1LE 1XX 1LE 1XX 1fLE 2XX 35LE 1XX 7LE
   1XX 1LE 3XX 3LE 1XX 7LE 3XX 4LE 2XX 6LE 4XX dLE 5XX 3LE 1XX 7LE 3XX 7WS 1XX 3WS 1XX 1EX 1ZWJ 2FO
   8XX 2MB aXX 1MB 2XX 1ML 2BR 5FO 1NL fXX 2NL 3XX 1MN fXX 1NL aXX 1WS 5FO 1XX aFO 1XX 1LE dXX 1LE
   10XX dLE 33XX 21EX 11XX 1LE 4XX 1LE 2XX aLE 1XX 1LE 3XX 5LE 6XX 1LE 1XX 1LE 1XX 1LE 1XX 4LE 1XX
   bLE 2XX 4LE 5XX 5LE 4XX 1LE 11XX 29LE 32dXX 34LE 716XX e5LE 6XX 4LE 3EX 2LE cXX 26LE 1XX 1LE 5XX
   1LE 2XX 38LE 7XX 1LE fXX 1EX 17LE 9XX 7LE 1XX 7LE 1XX 7LE 1XX 7LE 1XX 7LE 1XX 7LE 1XX 7LE 1XX
   7LE 1XX 20EX 2fXX 1LE 1d0XX 1WS 4XX 1LE 24XX 6EX 1XX 5KA 5XX 2LE 5cXX 2EX 2KA 3XX 5bKA 1XX 4KA
   5XX 2bLE 1XX 5eLE 11XX 20LE 30XX 10KA d0XX 2fKA 1XX 58KA 6ca8XX 48dLE 43XX 2eLE 2XX 10dLE 3XX
   10LE aNU 2LE 14XX 2fLE 4EX 1XX aEX 1XX 1fLE 2EX 50LE 2EX 16XX c3LE 5XX 2LE 1XX 1LE 1XX 5LE 18XX
   10LE 1EX 3LE 1EX 4LE 1EX 17LE 5EX 4XX 1EX 13XX 34LE cXX 2EX 32LE 12EX aXX aNU 6XX 12EX 6LE 3XX
   1LE 1XX 2LE 1EX aNU 1cLE 8EX 2XX 17LE dEX cXX 1dLE 3XX 4EX 2fLE eEX eXX 1LE aNU bXX 1EX aXX aNU
   6XX 29LE eEX 9XX 3LE 1EX 8LE 2EX 2XX aNU 21XX 3EX 32XX 1EX 1XX 3EX 2XX 2EX 5XX 2EX 1XX 1EX 1eXX
   bLE 5EX 2XX 3LE 2EX aXX 6LE 2XX 6LE 2XX 6LE 9XX 7LE 1XX 7LE 1XX 3aLE 6XX 73LE 8EX 1XX 2EX 2XX
   aNU 6XX 2ba4LE cXX 17LE 4XX 31LE 2304XX 7LE cXX 5LE 5XX 1HL 1EX aHL 1XX dHL 1XX 5HL 1XX 1HL 1XX
   2HL 1XX 2HL 1XX aHL 62LE 21XX 16bLE 12XX 40LE 2XX 36LE 28XX cLE 4XX 10EX 1MN 2XX 1ML 1MN bXX
   10EX 3XX 2NL 18XX 3NL 1MN 1XX 1MB 1XX 1MN 1ML 1aXX 5LE 1XX 87LE 2XX 1FO 7XX 1MB 4XX 1MN 1XX 1MB
   1XX aNU 1ML 1MN 5XX 1aLE 4XX 1NL 1XX 1aLE bXX 38KA 2EX 1fLE 3XX 6LE 2XX 6LE 2XX 6LE 2XX 3LE 1cXX
   3FO 4XX cLE 1XX 1aLE 1XX 13LE 1XX 2LE 1XX fLE 2XX eLE 22XX 7bLE 45XX 35LE 88XX 1EX 82XX 1dLE 3XX
   31LE fXX 1EX 1fXX 20LE dXX 1eLE 5XX 26LE 5EX 5XX 1eLE 2XX 24LE 4XX 8LE 1XX 5LE 2aXX 9eLE 2XX aNU
   6XX 24LE 4XX 24LE 4XX 28LE 8XX 34LE cXX bLE 1XX fLE 1XX 7LE 1XX 2LE 1XX bLE 1XX fLE 1XX 7LE 1XX
   2LE 43XX 137LE 9XX 16LE aXX 8LE 18XX 6LE 1XX 2aLE 1XX 9LE 45XX 6LE 2XX 1LE 1XX 2cLE 1XX 2LE 3XX
   1LE 2XX 17LE aXX 17LE 9XX 1fLE 41XX 13LE 1XX 2LE aXX 16LE aXX 1aLE 46XX 38LE 6XX 2LE 40XX 1LE
   3EX 1XX 2EX 5XX 4EX 4LE 1XX 3LE 1XX 1dLE 2XX 3EX 4XX 1EX 20XX 1dLE 3XX 1dLE 23XX 8LE 1XX 1cLE
   2EX 19XX 36LE aXX 16LE aXX 13LE dXX 12LE 6eXX 49LE 37XX 33LE dXX 33LE dXX 24LE 4EX 8XX aNU 146XX
   2aLE 1XX 2EX 3XX 2LE 4bXX 3EX 1dLE aXX 1LE 8XX 16LE bEX 1fXX 12LE 4EX 2aXX 15LE 1bXX 17LE 9XX
   3EX 35LE fEX 1fXX aNU 1EX 2LE 2EX 1LE 9XX 4EX 2dLE bEX 2XX 1FO 4XX 1EX aXX 1FO 2XX 19LE 7XX aNU
   6XX 3EX 24LE eEX 1XX aNU 4XX 1LE 2EX 1LE 8XX 23LE 1EX 2XX 1LE 9XX 3EX 30LE eEX 4LE 4XX 4EX 1XX
   2EX aNU 1LE 1XX 1LE 23XX 12LE 1XX 19LE cEX 6XX 1EX 2LE 1EX 3eXX 7LE 1XX 1LE 1XX 4LE 1XX fLE 1XX
   aLE 7XX 2fLE cEX 5XX aNU 6XX 4EX 1XX 8LE 2XX 2LE 2XX 16LE 1XX 7LE 1XX 2LE 1XX 5LE 1XX 2EX 1LE
   7EX 2XX 2EX 2XX 3EX 2XX 1LE 6XX 1EX 5XX 5LE 2EX 2XX 7EX 3XX 5EX 8bXX 35LE 12EX 4LE 5XX aNU 4XX
   1EX 3LE 1eXX 30LE 14EX 2LE 1XX 1LE 8XX aNU a6XX 2fLE 7EX 2XX 9EX 17XX 4LE 2EX 22XX 30LE 11EX 3XX
   1LE bXX aNU 26XX 2bLE dEX 1LE 7XX aNU 53XX fEX 4XX aNU c6XX 2cLE fEX 65XX 40LE aNU 15XX 8LE 2XX
   1LE 2XX 8LE 1XX 2LE 1XX 18LE 6EX 1XX 2EX 2XX 4EX 1LE 1EX 1LE 2EX cXX aNU 46XX 8LE 2XX 27LE 7EX
   2XX 7EX 1LE 1XX 1LE 1EX 1bXX 1LE aEX 28LE 7EX 1LE 4EX 8XX 1EX 8XX 1LE bEX 2eLE 10EX 3XX 1LE 12XX
   49LE 107XX 9LE 1XX 25LE 8EX 1XX 8EX 1LE fXX aNU 18XX 1eLE 2XX 16EX 1XX eEX 49XX 7LE 1XX 2LE 1XX
   26LE 6EX 3XX 1EX 1XX 2EX 1XX 7EX 1LE 1EX 8XX aNU 6XX 6LE 1XX 2LE 1XX 20LE 5EX 1XX 2EX 1XX 5EX
   1LE 7XX aNU 136XX 13LE 4EX 9XX 2EX 1LE 1EX dLE 1XX 22LE 7EX 3XX 5EX dXX aNU 56XX 1LE 4fXX 39aLE
   66XX 6fLE 11XX c4LE a4cXX 61LE fXX 430LE 10FO 1EX 6LE fEX faaXX 247LE 21b9XX 239LE 7XX 1fLE 1XX
   aNU 6XX 4fLE 1XX aNU 6XX 1eLE 2XX 5EX bXX 30LE 7EX 9XX 4LE cXX aNU 9XX 15LE 5XX 13LE 2b0XX 40LE
   80XX 4bLE 4XX 1EX 1LE 37EX 7XX 4EX dLE 40XX 2LE 1XX 1LE 1EX bXX 2EX 3ffeXX 4KA 1XX 7KA 1XX 2KA
   1XX 1KA 11fXX 3KA 32XX 1KA eXX 4KA a98XX 6bLE 5XX dLE 3XX 9LE 7XX aLE 3XX 2EX 1XX 4FO 125cXX
   2eEX 2XX 17EX 21eXX 5EX 3XX 6EX 8FO 8EX 2XX 7EX 1eXX 4EX 94XX 3EX 1bbXX 55LE 1XX 47LE 1XX 2LE
   2XX 1LE 2XX 2LE 2XX 4LE 1XX cLE 1XX 1LE 1XX 7LE 1XX 41LE 1XX 4LE 2XX 8LE 1XX 7LE 1XX 1cLE 1XX
   4LE 1XX 5LE 1XX 1LE 3XX 7LE 1XX 154LE 2XX 19LE 1XX 19LE 1XX 1fLE 1XX 19LE 1XX 1fLE 1XX 19LE 1XX
   1fLE 1XX 19LE 1XX 1fLE 1XX 19LE 1XX 8LE 2XX 32NU 200XX 37EX 4XX 32EX 8XX 1EX eXX 1EX 16XX 5EX
   1XX fEX 450XX 1fLE 6XX 6LE d5XX 7EX 1XX 11EX 2XX 7EX 1XX 2EX 1XX 5EX 5XX 3eLE 21XX 1EX 70XX 2dLE
   3XX 7EX 7LE 2XX aNU 4XX 1LE 141XX 1eLE 1EX 11XX 2cLE 4EX aNU 1d6XX 1cLE 4EX aNU 2e6XX 7LE 1XX
   4LE 1XX 2LE 1XX fLE 1XX c5LE bXX 7EX 29XX 44LE 7EX 1LE 4XX aNU 4a6XX 4LE 1XX 1bLE 1XX 2LE 1XX
   1LE 2XX 1LE 1XX aLE 1XX 4LE 1XX 1LE 1XX 1LE 6XX 1LE 4XX 1LE 1XX 1LE 1XX 1LE 1XX 3LE 1XX 2LE 1XX
   1LE 2XX 1LE 1XX 1LE 1XX 1LE 1XX 1LE 1XX 1LE 1XX 2LE 1XX 1LE 2XX 4LE 1XX 7LE 1XX 4LE 1XX 4LE 1XX
   1LE 1XX aLE 1XX 11LE 5XX 3LE 1XX 5LE 1XX 11LE 274XX 1aLE 6XX 1aLE 6XX 1aLE 5cXX 1aRI 1fbXX 5EX
   7f0XX aNU c0407XX 1FO 1eXX 60EX 80XX f0EX 2fe10XX"

def wordBreak : BreakProperty := ⟨wordValues, wordRuns⟩

/-! ### Sentences -/

def sentenceValues : List (List String × String) := [
  (["at", "aterm"], "AT"),
  (["cl", "close"], "CL"),
  (["cr"], "CR"),
  (["ex", "extend"], "EX"),
  (["fo", "format"], "FO"),
  (["le", "oletter"], "LE"),
  (["lf"], "LF"),
  (["lo", "lower"], "LO"),
  (["nu", "numeric"], "NU"),
  (["sc", "scontinue"], "SC"),
  (["se", "sep"], "SE"),
  (["sp"], "SP"),
  (["st", "sterm"], "ST"),
  (["up", "upper"], "UP")]

def sentenceRuns : String :=
  "9XX 1SP 1LF 2SP 1CR 12XX 1SP 1ST 1CL 4XX 3CL 2XX 2SC 1AT 1XX aNU 1SC 4XX 1ST 1XX 1aUP 1CL 1XX
   1CL 3XX 1aLO 1CL 1XX 1CL 7XX 1SE 1aXX 1SP 9XX 1LO 1CL 1XX 1FO 7XX 1LO 4XX 1LO 1CL 4XX 17UP 1XX
   7UP 18LO 1XX 8LO 1UP 1LO 1UP 1LO 1UP 1LO 1UP 1LO 1UP 1LO 1UP 1LO 1UP 1LO 1UP 1LO 1UP 1LO 1UP 1LO
   1UP 1LO 1UP 1LO 1UP 1LO 1UP 1LO 1UP 1LO 1UP 1LO 1UP 1LO 1UP 1LO 1UP 1LO 1UP 1LO 1UP 1LO 1UP 1LO
   1UP 1LO 1UP 1LO 1UP 1LO 1UP 1LO 1UP 1LO 1UP 2LO 1UP 1LO 1UP 1LO 1UP 1LO 1UP 1LO 1UP 1LO 1UP 1LO
   1UP 1LO 1UP 2LO 1UP 1LO 1UP 1LO 1UP 1LO 1UP 1LO 1UP 1LO 1UP 1LO 1UP 1LO 1UP 1LO 1UP 1LO 1UP 1LO
   1UP 1LO 1UP 1LO 1UP 1LO 1UP 1LO 1UP 1LO 1UP 1LO 1UP 1LO 1UP 1LO 1UP 1LO 1UP 1LO 1UP 1LO 1UP 1LO
   1UP 1LO 2UP 1LO 1UP 1LO 1UP 3LO 2UP 1LO 1UP 1LO 2UP 1LO 3UP 2LO 4UP 1LO 2UP 1LO 3UP 3LO 2UP 1LO
   2UP 1LO 1UP 1LO 1UP 1LO 2UP 1LO 1UP 2LO 1UP 1LO 2UP 1LO 3UP 1LO 1UP 1LO 2UP 2LO 1LE 1UP 3LO 4LE
   2UP 1LO 2UP 1LO 2UP 1LO 1UP 1LO 1UP 1LO 1UP 1LO 1UP 1LO 1UP 1LO 1UP 1LO 1UP 1LO 1UP 2LO 1UP 1LO
   1UP 1LO 1UP 1LO 1UP 1LO 1UP 1LO 1UP 1LO 1UP 1LO 1UP 1LO 1UP 2LO 2UP 1LO 1UP 1LO 3UP 1LO 1UP 1LO
   1UP 1LO 1UP 1LO 1UP 1LO 1UP 1LO 1UP 1LO 1UP 1LO 1UP 1LO 1UP 1LO 1UP 1LO 1UP 1LO 1UP 1LO 1UP 1LO
   1UP 1LO 1UP 1LO 1UP 1LO 1UP 1LO 1UP 1LO 1UP 1LO 1UP 1LO 1UP 1LO 1UP 1LO 1UP 1LO 1UP 1LO 1UP 1LO
   1UP 1LO 1UP 1LO 1UP 1LO 1UP 7LO 2UP 1LO 2UP 2LO 1UP 1LO 4UP 1LO 1UP 1LO 1UP 1LO 1UP 1LO 1UP 45LO
   1LE 24LO 7LE 2LO 4XX cLE eXX 5LO 7XX 1LE 1XX 1LE 11XX 70EX 1UP 1LO 1UP 1LO 1LE 1XX 1UP 1LO 2XX
   4LO 1XX 1UP 6XX 1UP 1XX 3UP 1XX 1UP 1XX 2UP 1LO 11UP 1XX 9UP 23LO 1UP 2LO 3UP 3LO 1UP 1LO 1UP
   1LO 1UP 1LO 1UP 1LO 1UP 1LO 1UP 1LO 1UP 1LO 1UP 1LO 1UP 1LO 1UP 1LO 1UP 1LO 1UP 5LO 1UP 1LO 1XX
   1UP 1LO 2UP 2LO 33UP 30LO 1UP 1LO 1UP 1LO 1UP 1LO 1UP 1LO 1UP 1LO 1UP 1LO 1UP 1LO 1UP 1LO 1UP
   1LO 1UP 1LO 1UP 1LO 1UP 1LO 1UP 1LO 1UP 1LO 1UP 1LO 1UP 1LO 1UP 1LO 1XX 7EX 1UP 1LO 1UP 1LO 1UP
   1LO 1UP 1LO 1UP 1LO 1UP 1LO 1UP 1LO 1UP 1LO 1UP 1LO 1UP 1LO 1UP 1LO 1UP 1LO 1UP 1LO 1UP 1LO 1UP
   1LO 1UP 1LO 1UP 1LO 1UP 1LO 1UP 1LO 1UP 1LO 1UP 1LO 1UP 1LO 1UP 1LO 1UP 1LO 1UP 1LO 1UP 1LO 1UP
   1LO 2UP 1LO 1UP 1LO 1UP 1LO 1UP 1LO 1UP 1LO 1UP 1LO 1UP 2LO 1UP 1LO 1UP 1LO 1UP 1LO 1UP 1LO 1UP
   1LO 1UP 1LO 1UP 1LO 1UP 1LO 1UP 1LO 1UP 1LO 1UP 1LO 1UP 1LO 1UP 1LO 1UP 1LO 1UP 1LO 1UP 1LO 1UP
   1LO 1UP 1LO 1UP 1LO 1UP 1LO 1UP 1LO 1UP 1LO 1UP 1LO 1UP 1LO 1UP 1LO 1UP 1LO 1UP 1LO 1UP 1LO 1UP
   1LO 1UP 1LO 1UP 1LO 1UP 1LO 1UP 1LO 1UP 1LO 1UP 1LO 1UP 1LO 1UP 1LO 1UP 1LO 1UP 1LO 1UP 1LO 1UP
   1LO 1UP 1LO 1UP 1LO 1UP 1LO 1UP 1LO 1UP 1LO 1UP 1LO 1UP 1LO 1XX 26UP 2XX 1LE 3XX 1SC 2XX 29LO
   1ST 7XX 2dEX 1XX 1EX 1XX 2EX 1XX 2EX 1XX 1EX 8XX 1bLE 4XX 5LE cXX 6FO 6XX 2SC 2XX bEX 1XX 1FO
   3ST 2bLE 15EX aNU 1XX 2NU 1XX 2LE 1EX 63LE 1ST 1LE 7EX 1FO 1XX 6EX 2LE 2EX 1XX 4EX 2LE aNU 3LE
   2XX 1LE 3ST cXX 1FO 1LE 1EX 1eLE 1bEX 2XX 59LE bEX 1LE eXX aNU 21LE 9EX 2LE 2XX 1SC 1ST 1LE 2XX
   1EX 2XX 16LE 4EX 1LE 9EX 1LE 3EX 1LE 5EX 9XX 1ST 1XX 1ST 3XX 2ST 1XX 19LE 3EX 4XX bLE 5XX 18LE
   1XX 6LE 1XX 2FO 6XX 8EX 2aLE 18EX 1FO 21EX 36LE 3EX 1LE 12EX 1LE 7EX aLE 2EX 2ST aNU 1XX 10LE
   3EX 1XX 8LE 2XX 2LE 2XX 16LE 1XX 7LE 1XX 1LE 3XX 4LE 2XX 1EX 1LE 7EX 2XX 2EX 2XX 3EX 1LE 8XX 1EX
   4XX 2LE 1XX 3LE 2EX 2XX aNU 2LE aXX 1LE 1XX 1EX 2XX 3EX 1XX 6LE 4XX 2LE 2XX 16LE 1XX 7LE 1XX 2LE
   1XX 2LE 1XX 2LE 2XX 1EX 1XX 5EX 4XX 2EX 2XX 3EX 3XX 1EX 7XX 4LE 1XX 1LE 7XX aNU 2EX 3LE 1EX bXX
   3EX 1XX 9LE 1XX 3LE 1XX 16LE 1XX 7LE 1XX 2LE 1XX 5LE 2XX 1EX 1LE 8EX 1XX 3EX 1XX 3EX 2XX 1LE fXX
   2LE 2EX 2XX aNU 9XX 1LE 6EX 1XX 3EX 1XX 8LE 2XX 2LE 2XX 16LE 1XX 7LE 1XX 2LE 1XX 5LE 2XX 1EX 1LE
   7EX 2XX 2EX 2XX 3EX 7XX 3EX 4XX 2LE 1XX 3LE 2EX 2XX aNU 1XX 1LE 10XX 1EX 1LE 1XX 6LE 3XX 3LE 1XX
   4LE 3XX 2LE 1XX 1LE 1XX 2LE 3XX 2LE 3XX 3LE 3XX cLE 4XX 5EX 3XX 3EX 1XX 4EX 2XX 1LE 6XX 1EX eXX
   aNU 10XX 5EX 8LE 1XX 3LE 1XX 17LE 1XX 10LE 2XX 1EX 1LE 7EX 1XX 3EX 1XX 4EX 7XX 2EX 1XX 3LE 2XX
   1LE 2XX 2LE 2EX 2XX aNU 10XX 1LE 3EX 1XX 8LE 1XX 3LE 1XX 17LE 1XX aLE 1XX 5LE 2XX 1EX 1LE 7EX
   1XX 3EX 1XX 4EX 7XX 2EX 6XX 2LE 1XX 2LE 2EX 2XX aNU 1XX 2LE 1EX cXX 4EX 9LE 1XX 3LE 1XX 29LE 2EX
   1LE 7EX 1XX 3EX 1XX 4EX 1LE 5XX 3LE 1EX 7XX 3LE 2EX 2XX aNU aXX 6LE 1XX 3EX 1XX 12LE 3XX 18LE
   1XX 9LE 1XX 1LE 2XX 7LE 3XX 1EX 4XX 6EX 1XX 1EX 1XX 8EX 6XX aNU 2XX 2EX dXX 30LE 1EX 2LE 7EX 5XX
   7LE 8EX 1XX aNU 27XX 2LE 1XX 1LE 1XX 5LE 1XX 18LE 1XX 1LE 1XX aLE 1EX 2LE 9EX 1LE 2XX 5LE 1XX
   1LE 1XX 7EX 1XX aNU 2XX 4LE 20XX 1LE 17XX 2EX 6XX aNU bXX 1EX 1XX 1EX 1XX 1EX 4CL 2EX 8LE 1XX
   24LE 4XX 14EX 1XX 2EX 5LE bEX 1XX 24EX 9XX 1EX 39XX 2bLE 14EX 1LE aNU 2ST 4XX 6LE 4EX 4LE 3EX
   1LE 3EX 2LE 7EX 3LE 4EX dLE cEX 1LE 1EX aNU 4EX 2XX 26UP 1XX 1UP 5XX 1UP 2XX 2bLE 1XX 1LO 14cLE
   1XX 4LE 2XX 7LE 1XX 1LE 1XX 4LE 2XX 29LE 1XX 4LE 2XX 21LE 1XX 4LE 2XX 7LE 1XX 1LE 1XX 4LE 2XX
   fLE 1XX 39LE 1XX 4LE 2XX 43LE 2XX 3EX 2XX 1ST 4XX 2ST 17XX 10LE 10XX 56UP 2XX 6LO 3XX 26cLE 1XX
   1ST 11LE 1SP 1aLE 2CL 3XX 4bLE 3XX bLE 7XX 12LE 4EX 9XX 13LE 3EX 2ST 9XX 12LE 2EX cXX dLE 1XX
   3LE 1XX 2EX cXX 34LE 20EX 3XX 1LE 4XX 1LE 1EX 2XX aNU 18XX 1SC 1ST 4XX 1SC 1ST 1XX 3EX 1FO 1EX
   aNU 6XX 59LE 7XX 5LE 2EX 22LE 1EX 1LE 5XX 46LE aXX 1fLE 1XX cEX 4XX cEX 8XX 2ST aNU 1eLE 2XX 5LE
   bXX 2cLE 4XX 1aLE 6XX aNU 26XX 17LE 5EX 4XX 35LE aEX 1XX 1dEX 2XX 1EX aNU 6XX aNU dXX 1LE 4ST
   4XX 1fEX 31XX 5EX 2fLE 11EX 8LE 3XX aNU 2ST 2XX 2ST bXX 9EX 9XX 2ST 1XX 3EX 1eLE dEX 2LE aNU
   2cLE eEX cXX 24LE 14EX 3XX 2ST 3XX aNU 3XX 3LE aNU 24LE 2ST 9LO 7XX 2bLE 2XX 3LE 10XX 3EX 1XX
   15EX 4LE 1EX 6LE 1EX 2LE 3EX 1LE 5XX c0LO 40EX 1UP 1LO 1UP 1LO 1UP 1LO 1UP 1LO 1UP 1LO 1UP 1LO
   1UP 1LO 1UP 1LO 1UP 1LO 1UP 1LO 1UP 1LO 1UP 1LO 1UP 1LO 1UP 1LO 1UP 1LO 1UP 1LO 1UP 1LO 1UP 1LO
   1UP 1LO 1UP 1LO 1UP 1LO 1UP 1LO 1UP 1LO 1UP 1LO 1UP 1LO 1UP 1LO 1UP 1LO 1UP 1LO 1UP 1LO 1UP 1LO
   1UP 1LO 1UP 1LO 1UP 1LO 1UP 1LO 1UP 1LO 1UP 1LO 1UP 1LO 1UP 1LO 1UP 1LO 1UP 1LO 1UP 1LO 1UP 1LO
   1UP 1LO 1UP 1LO 1UP 1LO 1UP 1LO 1UP 1LO 1UP 1LO 1UP 1LO 1UP 1LO 1UP 1LO 1UP 1LO 1UP 1LO 1UP 1LO
   1UP 1LO 1UP 1LO 1UP 1LO 1UP 1LO 1UP 1LO 1UP 1LO 1UP 1LO 1UP 1LO 1UP 1LO 1UP 1LO 1UP 1LO 1UP 1LO
   1UP 1LO 1UP 1LO 1UP 1LO 1UP 1LO 1UP 1LO 1UP 1LO 1UP 1LO 1UP 1LO 1UP 9LO 1UP 1LO 1UP 1LO 1UP 1LO
   1UP 1LO 1UP 1LO 1UP 1LO 1UP 1LO 1UP 1LO 1UP 1LO 1UP 1LO 1UP 1LO 1UP 1LO 1UP 1LO 1UP 1LO 1UP 1LO
   1UP 1LO 1UP 1LO 1UP 1LO 1UP 1LO 1UP 1LO 1UP 1LO 1UP 1LO 1UP 1LO 1UP 1LO 1UP 1LO 1UP 1LO 1UP 1LO
   1UP 1LO 1UP 1LO 1UP 1LO 1UP 1LO 1UP 1LO 1UP 1LO 1UP 1LO 1UP 1LO 1UP 1LO 1UP 1LO 1UP 1LO 1UP 1LO
   1UP 1LO 1UP 1LO 1UP 1LO 1UP 1LO 1UP 1LO 1UP 1LO 1UP 1LO 1UP 1LO 1UP 1LO 1UP 9LO 8UP 6LO 2XX 6UP
   2XX 8LO 8UP 8LO 8UP 6LO 2XX 6UP 2XX 8LO 1XX 1UP 1XX 1UP 1XX 1UP 1XX 1UP 8LO 8UP eLO 2XX 8LO 8UP
   8LO 8UP 8LO 8UP 5LO 1XX 2LO 5UP 1XX 1LO 3XX 3LO 1XX 2LO 5UP 3XX 4LO 2XX 2LO 4UP 4XX 8LO 5UP 5XX
   3LO 1XX 2LO 5UP 3XX bSP 1FO 2EX 2FO 3XX 2SC 3XX 8CL 4XX 1AT 3XX 2SE 5FO 1SP 9XX 2CL 1XX 2ST 7XX
   2CL 3ST 15XX 1SP 5FO 1XX aFO 1XX 1LO bXX 2CL 1LO dXX 2CL 1XX dLO 33XX 21EX 11XX 1UP 4XX 1UP 2XX
   1LO 3UP 2LO 3UP 1LO 1XX 1UP 3XX 5UP 6XX 1UP 1XX 1UP 1XX 1UP 1XX 4UP 1XX 1LO 4UP 1LO 4LE 1LO 2XX
   2LO 2UP 5XX 1UP 4LO 4XX 1LO 11XX 10UP 10LO 3LE 1UP 1LO 4LE 17fXX 4CL 1dXX 2CL 18bXX 1aUP 1aLO
   271XX 6CL 7XX eCL 4fXX 2CL 1fXX aCL 193XX 16CL 3fXX 4CL 20XX 2CL 202XX 30UP 30LO 1UP 1LO 3UP 2LO
   1UP 1LO 1UP 1LO 1UP 1LO 4UP 1LO 1UP 2LO 1UP 8LO 3UP 1LO 1UP 1LO 1UP 1LO 1UP 1LO 1UP 1LO 1UP 1LO
   1UP 1LO 1UP 1LO 1UP 1LO 1UP 1LO 1UP 1LO 1UP 1LO 1UP 1LO 1UP 1LO 1UP 1LO 1UP 1LO 1UP 1LO 1UP 1LO
   1UP 1LO 1UP 1LO 1UP 1LO 1UP 1LO 1UP 1LO 1UP 1LO 1UP 1LO 1UP 1LO 1UP 1LO 1UP 1LO 1UP 1LO 1UP 1LO
   1UP 1LO 1UP 1LO 1UP 1LO 1UP 1LO 1UP 1LO 1UP 1LO 1UP 1LO 1UP 1LO 1UP 1LO 1UP 1LO 1UP 1LO 1UP 1LO
   1UP 1LO 1UP 1LO 1UP 1LO 1UP 1LO 1UP 1LO 1UP 1LO 1UP 1LO 1UP 2LO 6XX 1UP 1LO 1UP 1LO 3EX 1UP 1LO
   cXX 26LO 1XX 1LO 5XX 1LO 2XX 38LE 7XX 1LE fXX 1EX 17LE 9XX 7LE 1XX 7LE 1XX 7LE 1XX 7LE 1XX 7LE
   1XX 7LE 1XX 7LE 1XX 7LE 1XX 20EX eCL eXX 2CL 2XX aCL 4XX 1ST 1LE cXX 1ST 5XX 1CL 10XX 2ST 8CL
   1a3XX 1SP 1SC 1ST 2XX 3LE aCL 2XX 8CL 1XX 3CL 1XX 9LE 6EX 1XX 5LE 2XX 5LE 4XX 56LE 2XX 2EX 2XX
   3LE 1XX 5aLE 1XX 4LE 5XX 2bLE 1XX 5eLE 11XX 20LE 30XX 10LE 200XX 19c0LE 40XX 568dLE 43XX 2eLE
   1XX 1ST 10dLE 1XX 2ST 10LE aNU 2LE 14XX 1UP 1LO 1UP 1LO 1UP 1LO 1UP 1LO 1UP 1LO 1UP 1LO 1UP 1LO
   1UP 1LO 1UP 1LO 1UP 1LO 1UP 1LO 1UP 1LO 1UP 1LO 1UP 1LO 1UP 1LO 1UP 1LO 1UP 1LO 1UP 1LO 1UP 1LO
   1UP 1LO 1UP 1LO 1UP 1LO 1UP 1LO 1LE 4EX 1XX aEX 1XX 1LE 1UP 1LO 1UP 1LO 1UP 1LO 1UP 1LO 1UP 1LO
   1UP 1LO 1UP 1LO 1UP 1LO 1UP 1LO 1UP 1LO 1UP 1LO 1UP 1LO 1UP 1LO 1UP 3LO 2EX 50LE 2EX 1XX 1ST 3XX
   1ST 1fXX 9LE 2XX 1UP 1LO 1UP 1LO 1UP 1LO 1UP 1LO 1UP 1LO 1UP 1LO 1UP 3LO 1UP 1LO 1UP 1LO 1UP 1LO
   1UP 1LO 1UP 1LO 1UP 1LO 1UP 1LO 1UP 1LO 1UP 1LO 1UP 1LO 1UP 1LO 1UP 1LO 1UP 1LO 1UP 1LO 1UP 1LO
   1UP 1LO 1UP 1LO 1UP 1LO 1UP 1LO 1UP 1LO 1UP 1LO 1UP 1LO 1UP 1LO 1UP 1LO 1UP 1LO 1UP 1LO 1UP 1LO
   1UP 1LO 1UP 1LO 1UP 1LO 1UP aLO 1UP 1LO 1UP 1LO 2UP 1LO 1UP 1LO 1UP 1LO 1UP 1LO 1UP 1LO 1LE 2XX
   1UP 1LO 1UP 1LO 1LE 1UP 1LO 1UP 3LO 1UP 1LO 1UP 1LO 1UP 1LO 1UP 1LO 1UP 1LO 1UP 1LO 1UP 1LO 1UP
   1LO 1UP 1LO 1UP 1LO 5UP 1LO 5UP 1LO 1UP 1LO 1UP 1LO 1UP 1LO 1UP 1LO 1UP 1LO 1UP 1LO 1UP 1LO 4UP
   1LO 1UP 1LO 5XX 1UP 1LO 1XX 1LO 1XX 1LO 1UP 1LO 1UP 1LO 18XX 3LO 1UP 1LO 1LE 3LO 7LE 1EX 3LE 1EX
   4LE 1EX 17LE 5EX 4XX 1EX 13XX 34LE 2XX 2ST 8XX 2EX 32LE 12EX 8XX 2ST aNU 6XX 12EX 6LE 3XX 1LE
   1XX 2LE 1EX aNU 1cLE 8EX 1XX 1ST 17LE dEX cXX 1dLE 3XX 4EX 2fLE eEX 7XX 2ST 5XX 1LE aNU 6XX 5LE
   1EX aLE aNU 5LE 1XX 29LE eEX 9XX 3LE 1EX 8LE 2EX 2XX aNU 3XX 3ST 17LE 3XX 1LE 3EX 32LE 1EX 1LE
   3EX 2LE 2EX 5LE 2EX 1LE 1EX 1LE 18XX 3LE 2XX bLE 5EX 2ST 3LE 2EX aXX 6LE 2XX 6LE 2XX 6LE 9XX 7LE
   1XX 7LE 1XX 2bLO 1XX eLO 6XX 50LO 23LE 8EX 1ST 2EX 2XX aNU 6XX 2ba4LE cXX 17LE 4XX 31LE 2104XX
   16eLE 2XX 6aLE 26XX 7LO cXX 5LO 5XX 1LE 1EX aLE 1XX dLE 1XX 5LE 1XX 1LE 1XX 2LE 1XX 2LE 1XX 6cLE
   21XX 16bLE 2CL 10XX 40LE 2XX 36LE 28XX cLE 4XX 10EX 2SC 1XX 1SC 3XX 2CL 7XX 10EX 1XX 2SC 2XX
   10CL 2XX 2CL 7XX 2SC 1AT 2XX 1SC 2ST 1SC 6CL 4XX 1SC cXX 5LE 1XX 87LE 2XX 1FO 1XX 1ST 6XX 2CL
   2XX 2SC 1AT 1XX aNU 1SC 4XX 1ST 1XX 1aUP 1CL 1XX 1CL 3XX 1aLO 1CL 1XX 1CL 1XX 2CL 1ST 2CL 1SC
   1XX 38LE 2EX 1fLE 3XX 6LE 2XX 6LE 2XX 6LE 2XX 3LE 1cXX 3FO 4XX cLE 1XX 1aLE 1XX 13LE 1XX 2LE 1XX
   fLE 2XX eLE 22XX 7bLE 45XX 35LE 88XX 1EX 82XX 1dLE 3XX 31LE fXX 1EX 1fXX 20LE dXX 1eLE 5XX 26LE
   5EX 5XX 1eLE 2XX 24LE 4XX 8LE 1XX 5LE 2aXX 28UP 28LO 4eLE 2XX aNU 6XX 24UP 4XX 24LO 4XX 28LE 8XX
   34LE cXX bUP 1XX fUP 1XX 7UP 1XX 2UP 1XX bLO 1XX fLO 1XX 7LO 1XX 2LO 43XX 137LE 9XX 16LE aXX 8LE
   18XX 1LO 2LE 3LO 1XX 2aLO 1XX 9LO 45XX 6LE 2XX 1LE 1XX 2cLE 1XX 2LE 3XX 1LE 2XX 17LE aXX 17LE
   9XX 1fLE 41XX 13LE 1XX 2LE aXX 16LE aXX 1aLE 46XX 38LE 6XX 2LE 40XX 1LE 3EX 1XX 2EX 5XX 4EX 4LE
   1XX 3LE 1XX 1dLE 2XX 3EX 4XX 1EX 16XX 2ST 8XX 1dLE 3XX 1dLE 23XX 8LE 1XX 1cLE 2EX 19XX 36LE aXX
   16LE aXX 13LE dXX 12LE 6eXX 49LE 37XX 33UP dXX 33LO dXX 24LE 4EX 8XX aNU 146XX 2aLE 1XX 2EX 3XX
   2LE 4bXX 3EX 1dLE aXX 1LE 8XX 16LE bEX 4XX 5ST 16XX 12LE 4EX 4ST 26XX 15LE 1bXX 17LE 9XX 3EX
   35LE fEX 2ST 1dXX aNU 1EX 2LE 2EX 1LE 9XX 4EX 2dLE bEX 2XX 1FO 4ST 1EX aXX 1FO 2XX 19LE 7XX aNU
   6XX 3EX 24LE eEX 1XX aNU 1XX 3ST 1LE 2EX 1LE 8XX 23LE 1EX 2XX 1LE 9XX 3EX 30LE eEX 4LE 2ST 2XX
   4EX 1ST 2EX aNU 1LE 1XX 1LE 1XX 2ST 20XX 12LE 1XX 19LE cEX 2ST 1XX 2ST 1XX 1EX 2LE 1EX 3eXX 7LE
   1XX 1LE 1XX 4LE 1XX fLE 1XX aLE 1ST 6XX 2fLE cEX 5XX aNU 6XX 4EX 1XX 8LE 2XX 2LE 2XX 16LE 1XX
   7LE 1XX 2LE 1XX 5LE 1XX 2EX 1LE 7EX 2XX 2EX 2XX 3EX 2XX 1LE 6XX 1EX 5XX 5LE 2EX 2XX 7EX 3XX 5EX
   8bXX 35LE 12EX 4LE 2ST 3XX aNU 4XX 1EX 3LE 1eXX 30LE 14EX 2LE 1XX 1LE 8XX aNU a6XX 2fLE 7EX 2XX
   9EX 1XX 2ST 5XX fST 4LE 2EX 22XX 30LE 11EX 2ST 1XX 1LE bXX aNU 26XX 2bLE dEX 1LE 7XX aNU 36XX
   1bLE 2XX fEX 4XX aNU 2XX 3ST 1XX 7LE b9XX 2cLE fEX 65XX 20UP 20LO aNU 15XX 8LE 2XX 1LE 2XX 8LE
   1XX 2LE 1XX 18LE 6EX 1XX 2EX 2XX 4EX 1LE 1EX 1LE 2EX 1ST 1XX 1ST 9XX aNU 46XX 8LE 2XX 27LE 7EX
   2XX 7EX 1LE 1XX 1LE 1EX 1bXX 1LE aEX 28LE 7EX 1LE 4EX 3XX 2ST 3XX 1EX 8XX 1LE bEX 2eLE 10EX 1XX
   2ST 1LE 12XX 49LE 107XX 9LE 1XX 25LE 8EX 1XX 8EX 1LE 2ST dXX aNU 18XX 1eLE 2XX 16EX 1XX eEX 49XX
   7LE 1XX 2LE 1XX 26LE 6EX 3XX 1EX 1XX 2EX 1XX 7EX 1LE 1EX 8XX aNU 6XX 6LE 1XX 2LE 1XX 20LE 5EX
   1XX 2EX 1XX 5EX 1LE 7XX aNU 136XX 13LE 4EX 2ST 7XX 2EX 1LE 1EX dLE 1XX 22LE 7EX 3XX 5EX 2ST bXX
   aNU 56XX 1LE 4fXX 39aLE 66XX 6fLE 11XX c4LE a4cXX 61LE fXX 430LE 10FO 1EX 6LE fEX faaXX 247LE
   21b9XX 239LE 7XX 1fLE 1XX aNU 4XX 2ST 4fLE 1XX aNU 6XX 1eLE 2XX 5EX 1ST aXX 30LE 7EX 2ST 7XX 4LE
   1ST bXX aNU 9XX 15LE 5XX 13LE 2b0XX 20UP 20LO 18XX 1ST 67XX 4bLE 4XX 1EX 1LE 37EX 7XX 4EX dLE
   40XX 2LE 1XX 1LE 1EX bXX 2EX eXX 17f8LE 8XX 4d6LE 2aXX 9LE 22e7XX 4LE 1XX 7LE 1XX 2LE 1XX 123LE
   fXX 1LE 1dXX 3LE 2XX 1LE eXX 4LE 8XX 18cLE 904XX 6bLE 5XX dLE 3XX 9LE 7XX aLE 3XX 2EX 1ST 4FO
   125cXX 2eEX 2XX 17EX 21eXX 5EX 3XX 6EX 8FO 8EX 2XX 7EX 1eXX 4EX 94XX 3EX 1bbXX 1aUP 1aLO 1aUP
   7LO 1XX 12LO 1aUP 1aLO 1UP 1XX 2UP 2XX 1UP 2XX 2UP 2XX 4UP 1XX 8UP 4LO 1XX 1LO 1XX 7LO 1XX bLO
   1aUP 1aLO 2UP 1XX 4UP 2XX 8UP 1XX 7UP 1XX 1aLO 2UP 1XX 4UP 1XX 5UP 1XX 1UP 3XX 7UP 1XX 1aLO 1aUP
   1aLO 1aUP 1aLO 1aUP 1aLO 1aUP 1aLO 1aUP 1aLO 1aUP 1cLO 2XX 19UP 1XX 19LO 1XX 6LO 19UP 1XX 19LO
   1XX 6LO 19UP 1XX 19LO 1XX 6LO 19UP 1XX 19LO 1XX 6LO 19UP 1XX 19LO 1XX 6LO 1UP 1LO 2XX 32NU 200XX
   37EX 4XX 32EX 8XX 1EX eXX 1EX 3XX 1ST 12XX 5EX 1XX fEX 450XX aLO 1LE 14LO 6XX 6LO d5XX 7EX 1XX
   11EX 2XX 7EX 1XX 2EX 1XX 5EX 5XX 3eLO 21XX 1EX 70XX 2dLE 3XX 7EX 7LE 2XX aNU 4XX 1LE 141XX 1eLE
   1EX 11XX 2cLE 4EX aNU 1d6XX 1cLE 4EX aNU 2e6XX 7LE 1XX 4LE 1XX 2LE 1XX fLE 1XX c5LE bXX 7EX 29XX
   22UP 22LO 7EX 1LE 4XX aNU 4a6XX 4LE 1XX 1bLE 1XX 2LE 1XX 1LE 2XX 1LE 1XX aLE 1XX 4LE 1XX 1LE 1XX
   1LE 6XX 1LE 4XX 1LE 1XX 1LE 1XX 1LE 1XX 3LE 1XX 2LE 1XX 1LE 2XX 1LE 1XX 1LE 1XX 1LE 1XX 1LE 1XX
   1LE 1XX 2LE 1XX 1LE 2XX 4LE 1XX 7LE 1XX 4LE 1XX 4LE 1XX 1LE 1XX aLE 1XX 11LE 5XX 3LE 1XX 5LE 1XX
   11LE 274XX 1aUP 6XX 1aUP 6XX 1aUP 4ecXX 3CL 577XX aNU 406XX a6e0LE 20XX 103aLE 6XX deLE 2XX
   1682LE eXX 1d31LE c1fXX 21eLE 5e2XX 134bLE 5XX 1060LE adc51XX 1FO 1eXX 60EX 80XX f0EX 2fe10XX"

def sentenceBreak : BreakProperty := ⟨sentenceValues, sentenceRuns⟩

end ImportBoundary.Unicode
