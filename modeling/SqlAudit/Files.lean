import SqlAudit.Text.Pieces

/-! # Files

A tree of files in which paths are looked up. It is given by the paths of its files and what they
hold; every part of a path but the last is a directory.
-/

namespace SqlAudit

inductive FileError where
  | missing
  /-- A part of the path that is not the last is a file. -/
  | notDirectory
  | isDirectory
  | nameTooLong
  /-- The path has a zero character. -/
  | zeroInPath
  /-- What the file holds is no text in UTF-8. -/
  | notText
  | other (reason : String)
  deriving DecidableEq, Repr, Inhabited

namespace FileError

def message : FileError → String
  | .missing => "No such file or directory (os error 2)"
  | .notDirectory => "Not a directory (os error 20)"
  | .isDirectory => "Is a directory (os error 21)"
  | .nameTooLong => "File name too long (os error 36)"
  | .zeroInPath => "file name contained an unexpected NUL byte"
  | .notText => "stream did not contain valid UTF-8"
  | .other reason => reason

/-- There is something at the path, though it cannot be read. -/
def isThere : FileError → Bool
  | .isDirectory | .notText | .other _ => true
  | .missing | .notDirectory | .nameTooLong | .zeroInPath => false

end FileError

def decodeText (bytes : ByteArray) : Except FileError String :=
  match String.fromUTF8? bytes with
  | some text => .ok text
  | none => .error .notText

/-- Files by the parts of their paths. -/
structure FileTree where
  files : List (List String × ByteArray)

namespace FileTree

inductive Entry where
  | directory
  | file (bytes : ByteArray)

def parts (path : String) : List String :=
  (Text.splitOn '/' path).filter fun p => !p.isEmpty && p != "."

def ofList (files : List (String × ByteArray)) : FileTree :=
  ⟨files.map fun f => (parts f.1, f.2)⟩

def entry? (t : FileTree) (place : List String) : Option Entry :=
  match t.files.lookup place with
  | some bytes => some (.file bytes)
  | none =>
    if place.isEmpty || t.files.any (fun f => place.isPrefixOf f.1) then some .directory else none

def step (t : FileTree) (place : List String) (part : String) : Except FileError (List String) :=
  match t.entry? place with
  | none => .error .missing
  | some (.file _) => .error .notDirectory
  | some .directory =>
    if part = ".." then (if place.isEmpty then .error .missing else .ok place.dropLast)
    else if 255 < part.utf8ByteSize then .error .nameTooLong
    else .ok (place ++ [part])

/-- The path has to be a directory: it ends in a slash or a dot of its own. -/
def wantsDirectory (path : String) : Bool :=
  (Text.splitOn '/' path).getLast?.any fun p => p.isEmpty || p = "."

/-- The text of the file at a path. Nothing outside the tree can be read. -/
def read (t : FileTree) (path : String) : Except FileError String := do
  if path.toList.contains '\x00' then throw .zeroInPath
  if path.isEmpty || path.toList.head? = some '/' then throw .missing
  let place ← (parts path).foldlM t.step []
  match t.entry? place with
  | none => throw .missing
  | some .directory => throw .isDirectory
  | some (.file bytes) => if wantsDirectory path then throw .notDirectory else decodeText bytes

end FileTree

end SqlAudit
