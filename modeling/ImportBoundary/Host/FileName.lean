import ImportBoundary.Text.Split

/-!
# File names

A file name leads from directory to directory. `ancestors` lists the directories on the way back:
the name itself, its directory, the directory of that, and so on, up to the root or, for a relative
name, up to the empty name. Empty segments and `.` do not count, except for a `.` in front.

Names are texts here and no paths of a repository. They are not normalized, and a name that climbs is
left to the machine.
-/

namespace ImportBoundary.FileName

abbrev Segment := List Char

/-- Drops what does not count at the end of a name. The segments come in reverse order. -/
def trim (absolute : Bool) : List Segment → List Segment
  | [] => []
  | [segment] =>
    if segment = [] ∨ (absolute ∧ segment = ['.']) then [] else [segment]
  | segment :: rest =>
    if segment = [] ∨ segment = ['.'] then trim absolute rest else segment :: rest

theorem length_trim_le (absolute : Bool) (back : List Segment) :
    (trim absolute back).length ≤ back.length := by
  fun_induction trim absolute back <;> simp_all
  omega

/-- The text of a name whose segments come in reverse order. -/
def spell (absolute : Bool) (back : List Segment) : String :=
  let joined := List.intercalate ['/'] back.reverse
  String.ofList (if absolute then '/' :: joined else joined)

def ancestorsFrom (absolute : Bool) (back : List Segment) : List String :=
  match _found : trim absolute back with
  | [] => [spell absolute []]
  | segment :: rest => spell absolute (segment :: rest) :: ancestorsFrom absolute rest
termination_by back.length
decreasing_by
  have := length_trim_le absolute back
  simp [_found] at this
  omega

/-- A name and the directories on the way back from it. -/
def ancestors (name : String) : List String :=
  match name.toList with
  | '/' :: rest => ancestorsFrom true (Text.split '/' rest).reverse
  | chars => ancestorsFrom false (Text.split '/' chars).reverse

def parent? (name : String) : Option String := (ancestors name)[1]?

/-- What a name stands for when it is read in a directory. -/
def join (directory name : String) : String :=
  if name.toList.head? = some '/' then name
  else if directory.toList.getLast?.all (· = '/') then directory ++ name
  else directory ++ "/" ++ name

end ImportBoundary.FileName
