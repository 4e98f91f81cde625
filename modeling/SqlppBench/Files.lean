import SqlppBench.Text.Blank
import SqlppBench.Text.Utf8

/-! # Files by path

Why a file cannot be read, and a directory given by the files in it. A path is walked one name after
another: each but the last must lead to a directory.
-/

namespace SqlppBench

/-- Why a file cannot be read. -/
inductive FileFault where
  | missing
  | notDirectory
  | isDirectory
  | nameTooLong
  /-- A path with a character that no name can have. -/
  | badPath
  | other (message : String)
deriving DecidableEq, Repr

/-- What the operating system says about the fault. -/
def FileFault.message : FileFault → String
  | .missing => "No such file or directory (os error 2)"
  | .notDirectory => "Not a directory (os error 20)"
  | .isDirectory => "Is a directory (os error 21)"
  | .nameTooLong => "File name too long (os error 36)"
  | .badPath => "file name contained an unexpected NUL byte"
  | .other message => message

/-- What a path may lead to. -/
inductive Entry where
  | file (content : Bytes)
  | directory

/-- The entries of a directory and of those below it, by their names from it on. -/
abbrev Files := List (List String × Entry)

namespace Files

/-- What is at a place: the names from the directory on, with dots for one above it and a slash for
the root. Nothing is known above the directory but that there are directories. -/
def at? (files : Files) (place : List String) : Option Entry :=
  if place == ["/"] || place.all (· == "..") then some .directory
  else
    match files.lookup place with
    | some entry => some entry
    | none => if files.any fun (names, _) => place.isPrefixOf names then some .directory else none

/-- The place above a place. -/
def above (place : List String) : List String :=
  match place.getLast? with
  | some "/" => place
  | none | some ".." => place ++ [".."]
  | some _ => place.dropLast

/-- Walks on along names. -/
def walk (files : Files) (place : List String) : List String → Except FileFault Entry
  | [] =>
    match files.at? place with
    | some entry => .ok entry
    | none => .error .missing
  | name :: rest =>
    match files.at? place with
    | none => .error .missing
    | some (.file _) => .error .notDirectory
    | some .directory =>
      if name.utf8ByteSize > 255 then .error .nameTooLong
      else if name.isEmpty || name == "." then walk files place rest
      else if name == ".." then walk files (above place) rest
      else walk files (place ++ [name]) rest

/-- The names along a path. -/
def names (path : String) : List String :=
  (Text.piecesBy (· == '/') path.toList).map String.ofList

/-- Reads the file that a path leads to. -/
def read (files : Files) (path : String) : Except FileFault Bytes :=
  if path.toList.contains '\x00' then .error .badPath
  else if path.isEmpty then .error .missing
  else if path.utf8ByteSize ≥ 4096 then .error .nameTooLong
  else
    let place := if path.toList.head? == some '/' then ["/"] else []
    match files.walk place (names path) with
    | .ok (.file content) => .ok content
    | .ok .directory => .error .isDirectory
    | .error f => .error f

end Files

end SqlppBench
