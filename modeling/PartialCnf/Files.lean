/-!
Input and output errors, and a directory tree of text files as a value. A workspace holds files
by the names along their paths; a directory exists when it is the root or holds a file somewhere
below it. A path is walked name by name: every name before the last must be a directory, `.`
stays and `..` goes up. Reading needs a file at the end. Writing creates or replaces a file; a
path that ends at a directory, or in a slash, cannot be written.

Before any walk a path is refused if it holds a NUL byte (it cannot be handed to the operating
system at all) or if it has `maxPath` bytes or more. During the walk, a name of more than
`maxName` bytes is refused when it is looked up, so an error met earlier on the path wins.
-/

namespace PartialCnf

/-- An error of reading or writing. -/
inductive IoError where
  | os (code : Nat) (description : String)
  | invalidUtf8
  | other (text : String)
  deriving DecidableEq, Repr

namespace IoError

def notFound : IoError := .os 2 "No such file or directory"

def isDirectory : IoError := .os 21 "Is a directory"

def notDirectory : IoError := .os 20 "Not a directory"

def nameTooLong : IoError := .os 36 "File name too long"

def nulByte : IoError := .other "file name contained an unexpected NUL byte"

def message : IoError → String
  | .os code description => description ++ " (os error " ++ toString code ++ ")"
  | .invalidUtf8 => "stream did not contain valid UTF-8"
  | .other text => text

end IoError

/-- The fewest bytes a path may not have. -/
def maxPath : Nat := 4096

def maxName : Nat := 255

def overlong (name : String) : Bool := name.utf8ByteSize > maxName

def pathPieces (path : String) : List String :=
  (path.toList.splitOn '/').map String.ofList

def pathNames (path : String) : List String :=
  (pathPieces path).filter fun s => s ≠ "" ∧ s ≠ "."

/-- A directory tree of text files, each under the names of its path. -/
structure Workspace where
  files : List (List String × String) := []
  deriving Repr

/-- Where a path ends once the directories before its last name are walked. -/
inductive Workspace.Target where
  | directory
  | entry (names : List String) (slash : Bool)

namespace Workspace

def find? (w : Workspace) (names : List String) : Option String :=
  (w.files.find? (·.1 == names)).map (·.2)

/-- Whether `names` is a directory: the root, or a proper prefix of a file's names. -/
def isDir (w : Workspace) (names : List String) : Bool :=
  names.isEmpty || w.files.any fun f => names.isPrefixOf f.1 && names.length < f.1.length

/-- The directory reached from `dir` through `steps`. Each step must be a directory: a name
too long to look up is refused, a file there is not a directory, and a missing name is not
found. -/
def walk (w : Workspace) (dir : List String) : List String → Except IoError (List String)
  | [] => .ok dir
  | step :: rest =>
    if step = "." then w.walk dir rest
    else if step = ".." then w.walk dir.dropLast rest
    else
      let next := dir ++ [step]
      if overlong step then .error .nameTooLong
      else if (w.find? next).isSome then .error .notDirectory
      else if w.isDir next then w.walk next rest
      else .error .notFound

/-- Where a path ends. A path with a NUL byte is refused first; the empty path names nothing,
and one of `maxPath` bytes or more is too long. -/
def locate (w : Workspace) (path : String) : Except IoError Target :=
  let steps := (pathPieces path).filter (· ≠ "")
  if Char.ofNat 0 ∈ path.toList then .error .nulByte
  else if path.isEmpty then .error .notFound
  else if path.utf8ByteSize ≥ maxPath then .error .nameTooLong
  else match steps.getLast? with
    | none => .ok .directory
    | some last =>
      (w.walk [] steps.dropLast).map fun dir =>
        if last = "." ∨ last = ".." then .directory
        else .entry (dir ++ [last]) (path.toList.getLast? == some '/')

def lastOverlong (names : List String) : Bool := (names.getLast?.map overlong).getD false

/-- The text of the file a path names. A slash after a file's name asks for a directory. -/
def read (w : Workspace) (path : String) : Except IoError String :=
  match w.locate path with
  | .error e => .error e
  | .ok .directory => .error .isDirectory
  | .ok (.entry names slash) =>
    if lastOverlong names then .error .nameTooLong
    else match w.find? names with
    | some s => if slash then .error .notDirectory else .ok s
    | none => if w.isDir names then .error .isDirectory else .error .notFound

def put (w : Workspace) (names : List String) (text : String) : Workspace :=
  if (w.find? names).isSome then
    ⟨w.files.map fun f => if f.1 == names then (names, text) else f⟩
  else ⟨w.files ++ [(names, text)]⟩

/-- Creates or replaces the file a path names. A path that ends at a directory or in a slash
is refused, whether or not a file of that name exists, before its last name is looked up. -/
def write (w : Workspace) (path : String) (text : String) : Except IoError Workspace :=
  match w.locate path with
  | .error e => .error e
  | .ok .directory => .error .isDirectory
  | .ok (.entry names slash) =>
    if slash then .error .isDirectory
    else if lastOverlong names then .error .nameTooLong
    else if w.isDir names then .error .isDirectory
    else .ok (w.put names text)

def ofFiles (files : List (String × String)) : Workspace :=
  files.foldl (fun w f => w.put (pathNames f.1) f.2) {}

def listing (w : Workspace) : List (String × String) :=
  w.files.map fun f => ("/".intercalate f.1, f.2)

end Workspace

/-- A monad that reads and writes files. -/
class FileSystem (m : Type → Type) where
  readBytes : String → m (Except IoError (List UInt8))
  writeText : String → String → m (Except IoError Unit)

end PartialCnf
