import ImportBoundary.Text.Split

/-!
# Message templates

A template holds tokens in braces that are filled with the texts of an import. A token without a
text stays as it is.

Tokens are replaced one after another in the whole text, the modules before the two ends. What has been
put in is searched like the rest, so a text that holds a token is not always shown as it is.
-/

namespace ImportBoundary

/-- The texts that are put into a template. -/
structure Template.Values where
  /-- The importing file. -/
  source : Option String := none
  /-- The import text. -/
  target : Option String := none
  sourceModule : Option String := none
  targetModule : Option String := none
deriving DecidableEq, Repr

namespace Template

def sourceToken : List Char := ['{', 'f', 'r', 'o', 'm', '}']

def targetToken : List Char := ['{', 't', 'o', '}']

def sourceModuleToken : List Char :=
  ['{', 'f', 'r', 'o', 'm', 'M', 'o', 'd', 'u', 'l', 'e', '}']

def targetModuleToken : List Char := ['{', 't', 'o', 'M', 'o', 'd', 'u', 'l', 'e', '}']

/-- Puts a text in the place of a token, if there is one. -/
def substitute (token : List Char) (value : Option String) (s : List Char) : List Char :=
  match value with
  | none => s
  | some value => Text.replaceAll token value.toList s

/-- Fills a template, one token after another. -/
def fillChars (values : Values) (template : List Char) : List Char :=
  substitute targetToken values.target <|
  substitute sourceToken values.source <|
  substitute targetModuleToken values.targetModule <|
  substitute sourceModuleToken values.sourceModule template

def fill (template : String) (values : Values) : String :=
  String.ofList (fillChars values template.toList)

end Template

end ImportBoundary
