/-!
# Paths

A path is a text of names with slashes in between. What it leads to is found step by step, from the
root if it begins with a slash and else from the working directory; one dot stays where it is and two
go up. Empty steps do not count, but a slash at the end says that a directory is meant.

For the parent of a path, dots that stay where they are do not count either, unless a path begins with
one; so `a/./b`, `a//b/` and `a/b` have the same parent.
-/

namespace ResourceWait

/-- **A step of a path.** -/
inductive PathStep where
  /-- Stay. -/
  | here
  /-- Go up. -/
  | up
  /-- Go to a name. -/
  | name (name : String)
deriving DecidableEq, Repr

/-- **A path**, as it is written. -/
structure FilePath where
  /-- The text. -/
  text : String
deriving DecidableEq, Repr

namespace PathStep

/-- The step that a part of a path stands for; an empty part is no step. -/
def ofPart? (part : List Char) : Option PathStep :=
  if part = [] then none
  else if part = ['.'] then some here
  else if part = ['.', '.'] then some up
  else some (name (String.ofList part))

/-- A step as it is written. -/
def text : PathStep → String
  | here => "."
  | up => ".."
  | name n => n

end PathStep

namespace FilePath

/-- The parts of a text between slashes. -/
def parts : List Char → List (List Char)
  | [] => [[]]
  | '/' :: rest => [] :: parts rest
  | c :: rest => match parts rest with
    | part :: others => (c :: part) :: others
    | [] => [[c]]

/-- Whether a path begins at the root. -/
def isAbsolute (path : FilePath) : Bool := path.text.toList.head? == some '/'

/-- Whether a path ends in a slash. -/
def endsInSlash (path : FilePath) : Bool := path.text.toList.getLast? == some '/'

/-- **The steps of a path.** -/
def steps (path : FilePath) : List PathStep := (parts path.text.toList).filterMap PathStep.ofPart?

/-- The steps of a path that count for its parent. -/
def properSteps (path : FilePath) : List PathStep :=
  match path.isAbsolute, path.steps with
  | false, .here :: rest => .here :: rest.filter (· != .here)
  | _, steps => steps.filter (· != .here)

/-- The path of given steps. -/
def ofSteps (absolute : Bool) (steps : List PathStep) : FilePath :=
  ⟨(if absolute then "/" else "") ++ "/".intercalate (steps.map PathStep.text)⟩

/-- The directories that given steps go through, from the last one up, the root and the working
directory left out. -/
def directories (absolute : Bool) (steps : List PathStep) : List FilePath :=
  (List.range steps.length).map fun dropped =>
    ofSteps absolute (steps.take (steps.length - dropped))

/-- **What a path lies in**, from its parent up, the root and the working directory left out. The
empty path and the root lie in nothing. -/
def ancestors? (path : FilePath) : Option (List FilePath) :=
  match path.properSteps with
  | [] => none
  | steps => some (directories path.isAbsolute steps.dropLast)

/-- **A path below another.** A slash goes in between unless there is one, or nothing, before it. -/
def join (path : FilePath) (name : String) : FilePath :=
  ⟨path.text ++ (if path.text.isEmpty || path.endsInSlash then "" else "/") ++ name⟩

/-- How many bytes a path takes. -/
def size (path : FilePath) : Nat := path.text.utf8ByteSize

/-- Whether the null character, which no path may hold, is in it. -/
def hasNull (path : FilePath) : Bool := path.text.contains '\x00'

end FilePath

end ResourceWait
