import FormulaLexer.Files.Reading

/-!
# File trees

A working directory held in memory. Paths are followed one name at a time, the way
a file system does it: `.` stays, `..` goes up, empty names are skipped, and a name
can only be looked up in a directory. Nothing is known of what lies outside the
working directory, except that the directories above it exist.
-/

set_option autoImplicit false

namespace FormulaLexer

/-- What a name in a directory stands for. -/
inductive FileEntry where
  | file (contents : ByteArray)
  | directory

/-- The entries of a working directory, each with the names that lead to it. -/
structure FileTree where
  entries : List (List String × FileEntry)

namespace FileTree

def maxNameLength : Nat := 255

/-- The number of bytes from which on a path is too long. -/
def pathLimit : Nat := 4096

/-- The names of a path, empty ones left out. -/
def names (path : String) : List String :=
  (path.splitOn "/").filter (!·.isEmpty)

/-- The tree with the given entries, named by paths. -/
def ofPaths (entries : List (String × FileEntry)) : FileTree :=
  ⟨entries.map fun (path, entry) => (names path, entry)⟩

/-- What the names lead to. A directory may be given by the entries below it alone. -/
def entry? (tree : FileTree) (place : List String) : Option FileEntry :=
  if place.isEmpty then some .directory
  else
    match tree.entries.find? (·.1 == place) with
    | some (_, entry) => some entry
    | none =>
      if tree.entries.any fun (names, _) => place.isPrefixOf names then some .directory
      else none

/-- A place reached while a path is followed. -/
inductive Place where
  /-- A place in the working directory, by the names that lead to it. -/
  | inside (names : List String)
  /-- A directory above the working directory. -/
  | outside

def Place.parent : Place → Place
  | .inside [] => .outside
  | .inside names => .inside names.dropLast
  | .outside => .outside

def at? (tree : FileTree) : Place → Option FileEntry
  | .inside names => tree.entry? names
  | .outside => some .directory

/-- Looks up one name in the directory at a place. -/
def step (tree : FileTree) (place : Place) (name : String) : Except ReadFailure Place :=
  match tree.at? place with
  | none => .error .notFound
  | some (.file _) => .error .notDirectory
  | some .directory =>
    if name = "." then .ok place
    else if name = ".." then .ok place.parent
    else if maxNameLength < name.utf8ByteSize then .error .nameTooLong
    else
      match place with
      | .outside => .error .notFound
      | .inside names =>
        if (tree.entry? (names ++ [name])).isSome then .ok (.inside (names ++ [name]))
        else .error .notFound

def follow (tree : FileTree) (place : Place) : List String → Except ReadFailure Place
  | [] => .ok place
  | name :: rest => do
    let next ← tree.step place name
    tree.follow next rest

/-- The bytes of the file that a path leads to. A slash at the end of the path asks
for a directory. -/
def read (tree : FileTree) (path : String) : Except ReadFailure ByteArray := do
  if path.contains '\x00' then throw .zeroInName
  if path.isEmpty then throw .notFound
  if pathLimit ≤ path.utf8ByteSize then throw .nameTooLong
  let origin : Place := if path.startsWith "/" then .outside else .inside []
  let place ← tree.follow origin (names path)
  match tree.at? place with
  | none => throw .notFound
  | some .directory => throw .isDirectory
  | some (.file contents) =>
    if path.endsWith "/" then throw .notDirectory else return contents

/-- The source in the file that a path leads to. -/
def readSource (tree : FileTree) (path : String) : Except ReadFailure String := do
  sourceOfBytes (← tree.read path)

end FileTree

end FormulaLexer
