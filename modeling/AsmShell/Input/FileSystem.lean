/-!
# Files

A file system holds files and directories below the working directory.  A path
is walked one name at a time: a directory has to stand in front of every further
name, two dots lead back up, and above the working directory nothing can be
found by its name.
-/

namespace AsmShell

/-- Why a path leads to no file. -/
inductive OpenFailure where
  | nulInPath
  | notFound
  | notDirectory
  | nameTooLong
  | other (reason : String)
deriving DecidableEq, Inhabited, Repr

/-- The reason in the words of the system. -/
def OpenFailure.reason : OpenFailure → String
  | .nulInPath => "file name contained an unexpected NUL byte"
  | .notFound => "No such file or directory (os error 2)"
  | .notDirectory => "Not a directory (os error 20)"
  | .nameTooLong => "File name too long (os error 36)"
  | .other reason => reason

/-- What a path can lead to. -/
inductive Entry where
  | file (bytes : List UInt8)
  | directory
deriving DecidableEq, Inhabited, Repr

/-- The files and directories below the working directory. -/
structure FileSystem where
  /-- The entries with the names that lead to them, the entry written last first.  The directories
  on the way to an entry need no entry of their own. -/
  entries : List (List String × Entry) := []
deriving Inhabited

namespace FileSystem

/-- The names in a path. -/
def pathNames (path : String) : List String :=
  go [] path.toList
where
  /-- The names in the rest of a path, with the characters of the first name that were already
  passed, the last of them first. -/
  go (passed : List Char) : List Char → List String
    | [] => [String.ofList passed.reverse]
    | '/' :: rest => String.ofList passed.reverse :: go [] rest
    | character :: rest => go (character :: passed) rest

/-- Write an entry at a path, in place of what was there. -/
def write (fileSystem : FileSystem) (path : String) (entry : Entry) : FileSystem :=
  ⟨(pathNames path, entry) :: fileSystem.entries⟩

/-- What the names lead to from the working directory, which is itself a directory. -/
def entryAt? (fileSystem : FileSystem) (names : List String) : Option Entry :=
  match fileSystem.entries.find? fun written => written.1 == names with
  | some written => some written.2
  | none =>
      if names.isEmpty || fileSystem.entries.any fun written => names.isPrefixOf written.1 then
        some .directory
      else none

/-- A place that a path has led to so far. -/
inductive Place where
  /-- The names that lead there from the working directory, the last one first, and what is
  there. -/
  | within (names : List String) (entry : Entry)
  /-- A directory above the working directory. -/
  | beyond
deriving Inhabited

/-- The place a path starts from. -/
def Place.workingDirectory : Place :=
  .within [] .directory

/-- The most bytes that a name may have. -/
def nameLimit : Nat :=
  255

/-- The number of bytes that a path has to stay below. -/
def pathLimit : Nat :=
  4096

/-- The place that a name leads to from another place. -/
def step (fileSystem : FileSystem) (place : Place) (name : String) :
    Except OpenFailure Place :=
  match place with
  | .within _ (.file _) => .error .notDirectory
  | .within names .directory =>
      if name = "" || name = "." then .ok place
      else if name = ".." then
        match names with
        | [] => .ok .beyond
        | _ :: parent => .ok (.within parent .directory)
      else if nameLimit < name.utf8ByteSize then .error .nameTooLong
      else
        match fileSystem.entryAt? (name :: names).reverse with
        | some entry => .ok (.within (name :: names) entry)
        | none => .error .notFound
  | .beyond =>
      if name = "" || name = "." || name = ".." then .ok .beyond
      else if nameLimit < name.utf8ByteSize then .error .nameTooLong
      else .error .notFound

/-- What a path leads to. -/
def resolve (fileSystem : FileSystem) (path : String) : Except OpenFailure Entry :=
  if path.toList.contains '\x00' then .error .nulInPath
  else if path.isEmpty then .error .notFound
  else if pathLimit ≤ path.utf8ByteSize then .error .nameTooLong
  else
    let start := if path.toList.head? = some '/' then Place.beyond else Place.workingDirectory
    match (pathNames path).foldlM fileSystem.step start with
    | .ok (.within _ entry) => .ok entry
    | .ok .beyond => .ok .directory
    | .error failure => .error failure

end FileSystem

end AsmShell
