import ResourceWait.Files.Path

/-!
# Files

The files and directories that a configuration is kept in: what lies where, and the working directory.
A place is the list of names that lead to it from the root. Every operation follows the steps of a path
and fails, with a cause, at the first that does not work out; an operation that fails leaves all as it
was, except that `createDirectories` may already have made some of the directories.

A name may have 255 bytes and a path 4095. Where nothing else stands in the way, the system can still
refuse to write a file or to make a directory; a write that is refused has not changed the file. What is
there can always be read.
-/

namespace ResourceWait

/-- **Why the system refuses** what nothing else stands in the way of. -/
inductive Refusal where
  /-- It is not allowed. -/
  | permission
  /-- There is no space left for it. -/
  | space
deriving DecidableEq, Repr

/-- What is said about a refusal. -/
def Refusal.message : Refusal → String
  | permission => "Permission denied (os error 13)"
  | space => "No space left on device (os error 28)"

/-- **Why an operation on files failed.** -/
inductive FileError where
  /-- Something on the way is not there. -/
  | notFound
  /-- There is something already. -/
  | alreadyExists
  /-- Something on the way is not a directory. -/
  | notADirectory
  /-- A directory is there, not a file. -/
  | isADirectory
  /-- A name or the whole path is too long. -/
  | nameTooLong
  /-- The path holds the null character. -/
  | nullInPath
  /-- The file does not hold text. -/
  | notText
  /-- The system refuses it. -/
  | refused (cause : Refusal)
deriving DecidableEq, Repr

/-- What is said about a failure. -/
def FileError.message : FileError → String
  | notFound => "No such file or directory (os error 2)"
  | alreadyExists => "File exists (os error 17)"
  | notADirectory => "Not a directory (os error 20)"
  | isADirectory => "Is a directory (os error 21)"
  | nameTooLong => "File name too long (os error 36)"
  | nullInPath => "file name contained an unexpected NUL byte"
  | notText => "stream did not contain valid UTF-8"
  | refused cause => cause.message

/-- A place: the names that lead to it from the root. -/
abbrev Place := List String

/-- **What lies at a place.** -/
inductive FileEntry where
  /-- A file with its bytes. -/
  | file (bytes : ByteArray)
  /-- A directory. -/
  | directory

/-- Whether a directory lies there. -/
def FileEntry.isDirectory : FileEntry → Bool
  | file _ => false
  | directory => true

/-- **Files and directories**, by place, the working directory, and what the system refuses. -/
structure FileTree where
  /-- What lies where; the root is always there. -/
  entries : List (Place × FileEntry) := []
  /-- The working directory. -/
  workingDirectory : Place := []
  /-- Where a file may not be written, nor a directory be made, and why. -/
  refusal? : Place → Option Refusal := fun _ => none

namespace FileTree

/-- A tree of nothing but an empty working directory of one name. -/
def scratch (name : String) : FileTree where
  entries := [([name], .directory)]
  workingDirectory := [name]

/-- What lies at a place. -/
def entry? (tree : FileTree) (place : Place) : Option FileEntry :=
  if place = [] then some .directory else tree.entries.lookup place

/-- Entries with the one at a place replaced, or put at the end. -/
def put (place : Place) (entry : FileEntry) :
    List (Place × FileEntry) → List (Place × FileEntry)
  | [] => [(place, entry)]
  | (p, e) :: rest => if p = place then (p, entry) :: rest else (p, e) :: put place entry rest

/-- The tree with an entry at a place. -/
def set (tree : FileTree) (place : Place) (entry : FileEntry) : FileTree :=
  { tree with entries := put place entry tree.entries }

/-- **The tree with an entry at a place**, unless the system refuses. -/
def trySet (tree : FileTree) (place : Place) (entry : FileEntry) : Except FileError FileTree :=
  match tree.refusal? place with
  | none => .ok (tree.set place entry)
  | some cause => .error (.refused cause)

/-- Where the steps of a path start from. -/
def origin (tree : FileTree) (path : FilePath) : Place :=
  if path.isAbsolute then [] else tree.workingDirectory

/-- Whether a name is too long. -/
def isTooLong (name : String) : Bool := 255 < name.utf8ByteSize

/-- **Follows steps** from a place. Each starts from a directory, and a name has to be there. -/
def walk (tree : FileTree) : Place → List PathStep → Except FileError Place
  | place, [] => .ok place
  | place, step :: rest =>
    match tree.entry? place with
    | none => .error .notFound
    | some (.file _) => .error .notADirectory
    | some .directory => match step with
      | .here => walk tree place rest
      | .up => walk tree place.dropLast rest
      | .name n =>
        if isTooLong n then .error .nameTooLong
        else if (tree.entry? (place ++ [n])).isNone then .error .notFound
        else walk tree (place ++ [n]) rest

/-- Refuses a path that leads nowhere whatever the files are. -/
def checkPath (path : FilePath) : Except FileError Unit :=
  if path.hasNull then .error .nullInPath
  else if path.size = 0 then .error .notFound
  else if 4096 ≤ path.size then .error .nameTooLong
  else .ok ()

/-- **What a path leads to**: the place, and what lies there. -/
def find (tree : FileTree) (path : FilePath) : Except FileError (Place × FileEntry) := do
  checkPath path
  let place ← tree.walk (tree.origin path) path.steps
  match tree.entry? place with
  | none => .error .notFound
  | some entry =>
    if path.endsInSlash && !entry.isDirectory then .error .notADirectory else return (place, entry)

/-- Whether a path leads to anything. -/
def isThere (tree : FileTree) (path : FilePath) : Bool := (tree.find path).isOk

/-- Whether a path leads to a directory. -/
def isDirectory (tree : FileTree) (path : FilePath) : Bool :=
  match tree.find path with
  | .ok (_, entry) => entry.isDirectory
  | .error _ => false

/-- **The text of a file.** -/
def readText (tree : FileTree) (path : FilePath) : Except FileError String := do
  match ← tree.find path with
  | (_, .directory) => .error .isADirectory
  | (_, .file bytes) => match String.fromUTF8? bytes with
    | some text => return text
    | none => .error .notText

/-- **The directory that the last step of a path starts from**, and that step, if there is any. -/
def findParent (tree : FileTree) (path : FilePath) :
    Except FileError (Place × Option PathStep) := do
  checkPath path
  let place ← tree.walk (tree.origin path) path.steps.dropLast
  match tree.entry? place, path.steps.getLast? with
  | _, none => return (place, none)
  | some .directory, step => return (place, step)
  | some (.file _), _ => .error .notADirectory
  | none, _ => .error .notFound

/-- **Writes a file**, over the one that is there or as a new one. -/
def writeFile (tree : FileTree) (path : FilePath) (bytes : ByteArray) :
    Except FileError FileTree := do
  match ← tree.findParent path with
  | (parent, some (.name n)) =>
    let place := parent ++ [n]
    if path.endsInSlash then .error .isADirectory
    else if isTooLong n then .error .nameTooLong
    else match tree.entry? place with
      | some .directory => .error .isADirectory
      | _ => tree.trySet place (.file bytes)
  | _ => .error .isADirectory

/-- **Makes a directory** where there is nothing. -/
def makeDirectory (tree : FileTree) (path : FilePath) : Except FileError FileTree := do
  match ← tree.findParent path with
  | (parent, some (.name n)) =>
    let place := parent ++ [n]
    if isTooLong n then .error .nameTooLong
    else if (tree.entry? place).isSome then .error .alreadyExists
    else tree.trySet place .directory
  | _ => .error .alreadyExists

/-- **Makes the first of some directories**, each of which lies in the next, and those around it that
are missing. -/
def createDirectories (tree : FileTree) : List FilePath → Except FileError Unit × FileTree
  | [] => (.ok (), tree)
  | path :: around =>
    match tree.makeDirectory path with
    | .ok tree => (.ok (), tree)
    | .error .notFound =>
      match createDirectories tree around with
      | (.error e, tree) => (.error e, tree)
      | (.ok (), tree) => match tree.makeDirectory path with
        | .ok tree => (.ok (), tree)
        | .error e => if tree.isDirectory path then (.ok (), tree) else (.error e, tree)
    | .error e => if tree.isDirectory path then (.ok (), tree) else (.error e, tree)

/-- Makes the directory at a path and those around it, as far as they are missing. -/
def makeAll (tree : FileTree) (path : FilePath) : Except FileError Unit × FileTree :=
  match path.ancestors? with
  | none => (.ok (), tree)
  | some around => tree.createDirectories (path :: around)

/-- Makes the parent of a path and the directories around it, as far as they are missing. -/
def makeParents (tree : FileTree) (path : FilePath) : Except FileError Unit × FileTree :=
  match path.ancestors? with
  | none => (.ok (), tree)
  | some around => tree.createDirectories around

/-- Writes a file, and makes the directories around it first. -/
def writeBelow (tree : FileTree) (path : FilePath) (bytes : ByteArray) :
    Except FileError Unit × FileTree :=
  match tree.makeParents path with
  | (.error e, tree) => (.error e, tree)
  | (.ok (), tree) => match tree.writeFile path bytes with
    | .error e => (.error e, tree)
    | .ok tree => (.ok (), tree)

/-- The tree without what a path leads to, and without what lies in that. -/
def remove (tree : FileTree) (path : FilePath) : FileTree :=
  match tree.find path with
  | .error _ => tree
  | .ok (place, _) =>
    { tree with entries := tree.entries.filter fun (p, _) => !place.isPrefixOf p }

end FileTree

end ResourceWait
