import SearchQuery.Text

/-! # Loading queries

A query is loaded from a file of the current directory or from standard input. Its bytes must be the
UTF-8 form of a text.
-/

namespace SearchQuery

inductive ReadFailure where
  | missing
  | isDirectory
  | notDirectory
  | other (reason : Text)
deriving DecidableEq, Repr

structure LoadingError where
  problem : Text
  details : Text
deriving DecidableEq, Repr

namespace LoadingError

def message (error : LoadingError) : Text := error.problem ++ ": " ++ error.details

/-- The file is there and cannot be used. -/
def unusable (reason : Text) : LoadingError := ⟨"Failed reading", reason⟩

def ofReadFailure : ReadFailure → LoadingError
  | .missing => ⟨"File not found", ""⟩
  | .isDirectory => unusable "is a directory"
  | .notDirectory => unusable "not a directory"
  | .other reason => unusable reason

end LoadingError

def decodeQuery (bytes : Except ReadFailure ByteArray) : Except LoadingError Text :=
  match bytes with
  | .error failure => .error (.ofReadFailure failure)
  | .ok bytes =>
    match String.fromUTF8? bytes with
    | some s => .ok s.toList
    | none => .error (.unusable "invalid data")

/-! ## A directory of files -/

/-- The files below a directory, by the names on the way to them. -/
structure Directory where
  files : List (List Text × ByteArray)

namespace Directory

/-- The names on a path. A dot and an empty name lead nowhere. -/
def names (path : Text) : List Text :=
  (path.splitOn '/').filter fun name => !name.isEmpty && name ≠ "."

def ofFiles (files : List (Text × ByteArray)) : Directory where
  files := files.map fun (path, bytes) => (names path, bytes)

/-- Whether a path ends with the name of what it leads to. -/
def endsWithName (path : Text) : Bool := (path.splitOn '/').getLast? = (names path).getLast?

/-- The bytes of the file on a path. Two dots lead to a directory. -/
def read (d : Directory) (path : Text) : Except ReadFailure ByteArray :=
  let way := names path
  if path.isEmpty then .error .missing
  else
    match d.files.find? fun (names, _) => names.isPrefixOf way with
    | some (names, bytes) =>
      if names = way && endsWithName path then .ok bytes else .error .notDirectory
    | none =>
      if way.all (· = "..".toList) || d.files.any fun (names, _) => way.isPrefixOf names then
        .error .isDirectory
      else
        .error .missing

end Directory

structure Source where
  directory : Directory
  input : ByteArray

def standardInput : Text := "-"

def Source.load (s : Source) (file : Text) : Except LoadingError Text :=
  decodeQuery (if file = standardInput then .ok s.input else s.directory.read file)

end SearchQuery
