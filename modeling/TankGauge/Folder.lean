import TankGauge.Text.Bytes

/-!
# Reading a file

The ways in which a file cannot be read, and a folder small enough to be written down: a few files
by name. It is a temporary folder, and of the system around it only that is known which every system
has.
-/

namespace TankGauge

/-- Why a file cannot be read. -/
inductive FileFault
  | notFound
  | notPermitted
  | notAFolder
  | isAFolder
  | nameTooLong
  /-- Any other cause, in the words of the system. -/
  | other (words : String)
deriving DecidableEq, Repr

/-- The wording of a fault, with the number that the system gives it. -/
def FileFault.message : FileFault → String
  | .notFound => "No such file or directory (os error 2)"
  | .notPermitted => "Permission denied (os error 13)"
  | .notAFolder => "Not a directory (os error 20)"
  | .isAFolder => "Is a directory (os error 21)"
  | .nameTooLong => "File name too long (os error 36)"
  | .other words => words

/-- Files by name. -/
structure Folder where
  files : List (String × Bytes) := []
deriving DecidableEq, Repr

namespace Folder

/-- A place in a system: the names that lead to it from the root, the last one first. -/
abbrev Place := List String

/-- What stands at a place. -/
inductive Entry
  | file (bytes : Bytes)
  | folder
deriving DecidableEq, Repr

/-! ## The system around the folder -/

/-- The folders that stand in the root of every system. -/
def rootFolders : List String :=
  ["bin", "boot", "dev", "etc", "home", "lib", "media", "mnt", "opt", "proc", "root", "run", "sbin",
    "srv", "sys", "tmp", "usr", "var"]

/-- What stands at a place in every system. Of its files these two are known: the source of no bytes
at all, and the list of accounts, which opens with the one that may do everything. -/
def systemEntry? : Place → Option Entry
  | [] => some .folder
  | [name] => if rootFolders.contains name then some .folder else none
  | ["null", "dev"] => some (.file [])
  | ["passwd", "etc"] => some (.file (Bytes.utf8 "root:x:0:0:root:/root:/bin/sh\n"))
  | _ => none

/-- The place of the folder: among the temporary files, under a name that no step of a path gives,
because its real one is not known. -/
def place : Place := ["", "tmp"]

/-- What stands at a place in the system that holds the folder. -/
def entry? (f : Folder) : Place → Option Entry
  | name :: above =>
    if above = place then (f.files.lookup name).map .file else systemEntry? (name :: above)
  | [] => systemEntry? []

/-! ## Following a path -/

/-- Follows the steps of a path from the folder at a place. A step that is empty or a point leads
nowhere, and two points lead to the folder around, which for the root is the root itself. A path
that ends at a folder leads to no bytes. -/
def follow (f : Folder) : Place → List String → Except FileFault Bytes
  | _, [] => .error .isAFolder
  | here, step :: rest =>
    if step = "" ∨ step = "." then f.follow here rest
    else if step = ".." then f.follow here.tail rest
    else if 255 < step.utf8ByteSize then .error .nameTooLong
    else match f.entry? (step :: here) with
      | none => .error .notFound
      | some .folder => f.follow (step :: here) rest
      | some (.file bytes) => if rest.isEmpty then .ok bytes else .error .notAFolder

/-- The bytes of the file that a path leads to. An absolute path starts at the root. -/
def read (f : Folder) (path : String) : Except FileFault Bytes :=
  if path = "" then .error .notFound
  else if 4095 < path.utf8ByteSize then .error .nameTooLong
  else f.follow (if path.startsWith "/" then [] else place) (path.splitOn "/")

end Folder

end TankGauge
