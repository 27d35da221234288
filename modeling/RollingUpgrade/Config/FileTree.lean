import RollingUpgrade.Error
import RollingUpgrade.NameMap
import RollingUpgrade.Path
import RollingUpgrade.Text.Utf8

namespace RollingUpgrade

inductive FileEntry
  | file (bytes : List UInt8)
  -- A file that cannot be read, with what the system says of it.
  | unreadable (message : String)
  | directory
  deriving DecidableEq

inductive FileEntry.Kind
  | file
  | directory
  deriving DecidableEq

def FileEntry.kind : FileEntry → Kind
  | .file _ | .unreadable _ => .file
  | .directory              => .directory

-- Files and directories by their absolute paths. The root is a directory always.
structure FileTree where
  entries : NameMap FileEntry

namespace FileTree

inductive Failure
  | noSuchFile
  | notADirectory
  | isADirectory
  | nameTooLong
  | nullCharacter
  | notText
  | refused (message : String)
  deriving DecidableEq, Repr

def Failure.message : Failure → String
  | .noSuchFile => "No such file or directory (os error 2)"
  | .notADirectory => "Not a directory (os error 20)"
  | .isADirectory => "Is a directory (os error 21)"
  | .nameTooLong => "File name too long (os error 36)"
  | .nullCharacter => "file name contained an unexpected NUL byte"
  | .notText => "stream did not contain valid UTF-8"
  | .refused message => message

-- The names on the way from the root, last one first.
abbrev Position := List String

def pathOf (p : Position) : String := "/" ++ "/".intercalate p.reverse

def entryAt? (t : FileTree) : Position → Option FileEntry
  | [] => some .directory
  | p => t.entries.find? (pathOf p)

-- The names of a path. Empty ones say nothing.
def namesOf (path : String) : List String :=
  ((Text.splitWhere (· == '/') path.toList).map String.ofList).filter (· != "")

def positionOf (path : String) : Position := (namesOf path).reverse

def maxPathBytes : Nat := 4095

def maxNameBytes : Nat := 255

def enter (t : FileTree) (p : Position) (name : String) : Except Failure Position :=
  match t.entryAt? p with
  | some .directory =>
    if name == "." then .ok p
    else if name == ".." then .ok p.tail
    else if maxNameBytes < name.utf8ByteSize then .error .nameTooLong
    else if (t.entryAt? (name :: p)).isSome then .ok (name :: p)
    else .error .noSuchFile
  | some _ => .error .notADirectory
  | none => .error .noSuchFile

-- Where the names of a path are followed from, as seen from a directory.
def startOf (directory path : String) : Position :=
  if Path.isAbsolute path then [] else positionOf directory

-- What is at the end of a path. A slash there asks for a directory.
def arrive (t : FileTree) (path : String) (p : Position) : Except Failure FileEntry :=
  match t.entryAt? p with
  | some .directory => .ok .directory
  | some entry => if path.toList.getLast? == some '/' then .error .notADirectory else .ok entry
  | none => .error .noSuchFile

def lookup (t : FileTree) (directory path : String) : Except Failure FileEntry :=
  if path.isEmpty then .error .noSuchFile
  else if path.toList.contains '\x00' then .error .nullCharacter
  else if maxPathBytes < path.utf8ByteSize then .error .nameTooLong
  else (namesOf path).foldlM t.enter (startOf directory path) >>= t.arrive path

def contains (t : FileTree) (directory path : String) : Bool :=
  (t.lookup directory path) matches .ok _

def isFile (t : FileTree) (directory path : String) : Bool :=
  ((t.lookup directory path).map FileEntry.kind) matches .ok .file

def readText (t : FileTree) (directory path : String) : Except Failure String := do
  match ← t.lookup directory path with
  | .directory => throw .isADirectory
  | .unreadable message => throw (.refused message)
  | .file bytes =>
    match Text.Utf8.decode? bytes with
    | some s => return s
    | none => throw .notText

def empty : FileTree := ⟨.empty⟩

def addDirectory (t : FileTree) : Position → FileTree
  | [] => t
  | name :: outer =>
    ⟨(t.addDirectory outer).entries.insert (pathOf (name :: outer)) .directory⟩

def withDirectory (t : FileTree) (path : String) : FileTree := t.addDirectory (positionOf path)

-- Adds an entry, with the directories around it, by its absolute path.
def withEntry (t : FileTree) (path : String) (entry : FileEntry) : FileTree :=
  let p := positionOf path
  ⟨(t.addDirectory p.tail).entries.insert (pathOf p) entry⟩

def withFile (t : FileTree) (path : String) (bytes : List UInt8) : FileTree :=
  t.withEntry path (.file bytes)

def withUnreadable (t : FileTree) (path message : String) : FileTree :=
  t.withEntry path (.unreadable message)

end FileTree
end RollingUpgrade
