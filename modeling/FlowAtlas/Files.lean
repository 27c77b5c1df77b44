import FlowAtlas.Bytecode.Object
import FlowAtlas.Failure
import FlowAtlas.Files.Path

/-!
# Files

A file has contents and, if it is the source of a module, the members that the module defines. Files
stand in directories, and those of interest below a working directory.
-/

namespace FlowAtlas

/-- The place of a file or a directory: the names that lead to it from the working directory. Two
full stops at the head lead out of it, and a slash leads to the root. -/
abbrev Place := List String

namespace Place

/-- The place that a name leads to. Two full stops lead to the directory that holds the place; the
root holds itself. -/
def step (place : Place) (name : String) : Place :=
  if name = ".." then
    match place.getLast? with
    | none | some ".." => place ++ [".."]
    | some "/" => place
    | some _ => place.dropLast
  else place ++ [name]

/-- The place where a path begins. -/
def start (p : Path) : Place :=
  if p.root.isEmpty then [] else ["/"]

/-- The working directory, those that hold it, and the root are there in any case. -/
def isGiven (place : Place) : Bool :=
  place.all (· = "..") || place = ["/"]

/-- A place is below the working directory. -/
def isInside (place : Place) : Bool :=
  place.head?.all fun name => name ≠ ".." && name ≠ "/"

end Place

/-- A file or a directory. -/
inductive Entry where
  | file (contents : ByteArray) (members : Members)
  | directory

/-- The files and directories, each at its place. A directory that holds something need not be
listed itself. -/
structure Files where
  entries : List (Place × Entry)

namespace Files

/-- The file or the directory at a place. -/
def entry? (files : Files) (place : Place) : Option Entry :=
  match files.entries.lookup place with
  | some e => some e
  | none =>
    if Place.isGiven place || files.entries.any fun (p, _) => place.isPrefixOf p then
      some .directory
    else none

/-- The greatest count of bytes in a name. -/
def longestName : Nat := 255

/-- The greatest count of bytes in a path. -/
def longestPath : Nat := 4095

/-- The place that names lead to from a place. All places on the way must be directories. -/
def follow (files : Files) (place : Place) : List String → Except FileFlaw Place
  | [] => .ok place
  | name :: rest =>
    match files.entry? place with
    | none => .error .missing
    | some (.file _ _) => .error .notDirectory
    | some .directory =>
      if name.utf8ByteSize > longestName then .error .nameTooLong
      else files.follow (Place.step place name) rest

/-- The place that a path names. -/
def resolve (files : Files) (p : Path) : Except FileFlaw Place :=
  if p.text.utf8ByteSize > longestPath then .error .nameTooLong
  else files.follow (Place.start p) p.names

/-- The contents of the file that a path names, and the members that it defines. -/
def read (files : Files) (p : Path) : Except FileFlaw (ByteArray × Members) := do
  match files.entry? (← files.resolve p) with
  | some (.file contents members) => .ok (contents, members)
  | some .directory => .error .isDirectory
  | none => .error .missing

/-- The files after an entry has been put at a place. -/
def put (files : Files) (place : Place) (e : Entry) : Files :=
  if files.entries.any (·.1 = place) then
    ⟨files.entries.map fun (p, old) => if p = place then (p, e) else (p, old)⟩
  else ⟨files.entries ++ [(place, e)]⟩

/-- The files after contents have been written to the file that a path names. -/
def write (files : Files) (p : Path) (contents : ByteArray) : Except FileFlaw Files := do
  let place ← files.resolve p
  match files.entry? place with
  | some .directory => .error .isDirectory
  | some (.file _ _) | none => .ok (files.put place (.file contents []))

/-- The contents of the file at a place. -/
def contents? (files : Files) (place : Place) : Option ByteArray :=
  match files.entries.lookup place with
  | some (.file contents _) => some contents
  | _ => none

/-- The files below the working directory, with their contents. -/
def contents (files : Files) : List (Place × ByteArray) :=
  files.entries.filterMap fun (place, e) =>
    match e with
    | .file contents _ => if Place.isInside place then some (place, contents) else none
    | .directory => none

/-- The files below the working directory that are new or have other contents than before. -/
def changesSince (files before : Files) : List (Place × ByteArray) :=
  files.contents.filter fun (place, contents) =>
    (before.contents? place).map (·.toList) ≠ some contents.toList

end Files

end FlowAtlas
