import ImportBoundary.Text.Basic
import ImportBoundary.Text.Split

/-!
# Paths of a repository

A path is held as its text. `Path.normalize` gives the canonical text of any spelling: forward
slashes, no empty and no `.` segment, `..` folded into the segment before it, `.` for the empty
relative path. The folding is purely lexical, so it needs no file system, and it works segment by
segment on a stack of kept segments (`push`).
-/

namespace ImportBoundary

/-- A path, held as its text. -/
structure Path where
  text : String
deriving DecidableEq, Repr

namespace Path

/-- A segment is the text between two slashes. -/
abbrev Segment := List Char

def up : Segment := ['.', '.']

/-- Puts one segment on the stack of kept segments, whose top is the deepest one. An empty segment
and `.` name the directory they stand in. `..` takes the top segment away; on an empty stack, or on
a stack of `..`, there is nothing to take away, so it is kept in a relative path and has no effect
below the root of an absolute one. -/
def push (absolute : Bool) (stack : List Segment) (segment : Segment) : List Segment :=
  if segment = [] ∨ segment = ['.'] then stack
  else if segment = up then
    match stack with
    | [] => if absolute then [] else [up]
    | top :: below => if top = up then (if absolute then stack else up :: stack) else below
  else segment :: stack

/-- A backslash separates segments as a slash does. -/
def unifySlashes (s : List Char) : List Char := s.map fun c => if c = '\\' then '/' else c

/-- Folds a list of segments from left to right; the first segment of the result is the outermost. -/
def fold (absolute : Bool) (segments : List Segment) : List Segment :=
  (segments.foldl (push absolute) []).reverse

/-- The text of a path with the given segments. The empty relative path is spelled `.`. -/
def spell (absolute : Bool) (segments : List Segment) : List Char :=
  match absolute, List.intercalate ['/'] segments with
  | true, joined => '/' :: joined
  | false, [] => ['.']
  | false, joined => joined

/-- The canonical path of a spelling. -/
def normalizeChars (s : List Char) : List Char :=
  let raw := unifySlashes s
  let absolute := raw.head? = some '/'
  spell absolute (fold absolute (Text.split '/' raw))

def normalize (s : String) : Path := ⟨String.ofList (normalizeChars s.toList)⟩

def root : Path := normalize "."

def toList (p : Path) : List Char := p.text.toList

/-- An absolute path starts with a slash. -/
def isAbsolute (p : Path) : Bool := p.toList.head? = some '/'

/-- What `segment` spells when it is read in the directory `base`: an absolute text stands for
itself, any other is appended after one slash. -/
def appendChars (base segment : List Char) : List Char :=
  if segment.head? = some '/' then segment
  else if base.getLast?.all (· = '/') then base ++ segment
  else base ++ '/' :: segment

/-- Resolves a text in the directory `p`. -/
def join (p : Path) (segment : String) : Path :=
  ⟨String.ofList (normalizeChars (appendChars p.toList segment.toList))⟩

/-- The directory of a path; a path without a slash has none. -/
def parent? (p : Path) : Option Path :=
  (Text.beforeLast? '/' p.toList).map fun dir =>
    ⟨String.ofList (if dir = [] then ['/'] else dir)⟩

/-- Whether `path` is `dir` or continues it after a slash. -/
def isUnderChars (path dir : List Char) : Bool :=
  match Text.strip? dir path with
  | none => false
  | some [] => true
  | some (c :: _) => c = '/'

def isUnder (path dir : String) : Bool := isUnderChars path.toList dir.toList

/-- Whether `p` is `dir` or lies below it. The repository root holds every relative path whose
text does not start with two dots. -/
def isWithin (p dir : Path) : Bool :=
  if dir.text = "." then !p.isAbsolute && !Text.startsWith up p.toList
  else isUnder p.text dir.text

def trimEndSlashes (s : List Char) : List Char := (s.reverse.dropWhile (· = '/')).reverse

/-- The path as seen from `dir`: what lies below `dir` loses it, anything else is unchanged. -/
def relativeTo (p dir : Path) : Path :=
  if p = dir then root
  else match Text.strip? (trimEndSlashes dir.toList) p.toList with
    | some ('/' :: rest) => ⟨String.ofList (normalizeChars (rest.dropWhile (· = '/')))⟩
    | _ => p

def order (p q : Path) : Ordering := Text.order p.text q.text

end Path

end ImportBoundary
