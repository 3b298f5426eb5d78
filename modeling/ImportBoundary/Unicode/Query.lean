import ImportBoundary.Unicode.Age
import ImportBoundary.Unicode.Break
import ImportBoundary.Unicode.Category
import ImportBoundary.Unicode.Property
import ImportBoundary.Unicode.Script

/-!
# Looking up characters by the name of a property

Names are compared loosely: case, blanks, hyphens and underscores do not count, and neither does a
leading `is`. A name alone is that of a binary property, of a category or of a script, in this order.
-/

namespace ImportBoundary.Unicode

def beginsWithIs : List Char → Bool
  | a :: b :: _ => (a = 'i' || a = 'I') && (b = 's' || b = 'S')
  | _ => false

/-- A name as it is compared. -/
def looseName (name : String) : String :=
  let cs := name.toList
  let significant := (if beginsWithIs cs then cs.drop 2 else cs).filter fun c =>
    c ≠ ' ' && c ≠ '_' && c ≠ '-' && c.toNat < 0x80
  let lower := significant.map Char.toLower
  if beginsWithIs cs && lower = ['c'] then "isc" else String.ofList lower

/-- The characters of a category or of one of the sets that are asked for like a category. -/
def generalCategory? (name : String) : Option CharSet :=
  match name with
  | "any" => some .all
  | "ascii" => some ⟨[⟨0, 0x7F⟩]⟩
  | "assigned" => (category? "unassigned").map CharSet.complement
  | name => category? name

/-- The names of categories that are also short names of properties. They mean the category. -/
def categoryFirst : List String := ["cf", "sc", "lc"]

def byName? (name : String) : Option CharSet :=
  let name := looseName name
  let binary := if categoryFirst.contains name then none else property? name
  binary <|> generalCategory? name <|> script? name

def byValue? (property value : String) : Option CharSet :=
  let value := looseName value
  match looseName property with
  | "gc" | "generalcategory" => generalCategory? value
  | "sc" | "script" => script? value
  | "scx" | "scriptextensions" => scriptExtension? value
  | "age" => ofVersion? value
  | "gcb" | "graphemeclusterbreak" => graphemeBreak.ofValue? value
  | "wb" | "wordbreak" => wordBreak.ofValue? value
  | "sb" | "sentencebreak" => sentenceBreak.ofValue? value
  | _ => none

/-- The characters of words: alphabetic ones, marks, decimal digits, connectors and joiners. -/
def wordChars : CharSet :=
  let named := ["alphabetic", "joincontrol"].filterMap property?
  (named.foldl CharSet.union .empty).union (ofCategories ["Mc", "Me", "Mn", "Nd", "Pc"])

def digitChars : CharSet := ofCategories ["Nd"]

def spaceChars : CharSet := (property? "whitespace").getD .empty

end ImportBoundary.Unicode
