import LayerMarkup.Text.Basic

/-!
# Directories

The directory that the command works in: files by name with their bytes.  Paths are brought to a
plain form first, without empty and single-dot parts; there are no directories inside.  Nothing is
known of the directories around it but that they are there.
-/

namespace LayerMarkup.Command

/-- A path in plain form. -/
structure Path where
  /-- The slashes at the beginning. -/
  root : String
  parts : List String
deriving DecidableEq

namespace Path

/-- The plain form of a path.  Two slashes at the beginning stay two; more are one. -/
def ofString (s : String) : Path where
  root :=
    match s.toList with
    | '/' :: '/' :: '/' :: _ => "/"
    | '/' :: '/' :: _ => "//"
    | '/' :: _ => "/"
    | _ => ""
  parts := ((s.toList.splitOn '/').filter fun part => part != [] && part != ['.']).map String.ofList

/-- The plain form as a text. -/
def text (p : Path) : String :=
  if p.root.isEmpty && p.parts.isEmpty then "." else p.root ++ Text.joinWith "/" p.parts

end Path

/-- Why a file cannot be read or written. -/
inductive FileError where
  | notFound (path : String)
  | notDirectory (path : String)
  | isDirectory (path : String)
  | nameTooLong (path : String)
  | nullInPath
deriving DecidableEq

def FileError.message : FileError → String
  | notFound path => "[Errno 2] No such file or directory: " ++ Text.quoted path
  | notDirectory path => "[Errno 20] Not a directory: " ++ Text.quoted path
  | isDirectory path => "[Errno 21] Is a directory: " ++ Text.quoted path
  | nameTooLong path => "[Errno 36] File name too long: " ++ Text.quoted path
  | nullInPath => "embedded null byte"

/-- Files by name with their bytes. -/
abbrev Directory := List (String × List UInt8)

namespace Directory

/-- The bytes of a file. -/
def find? (name : String) : Directory → Option (List UInt8)
  | [] => none
  | (n, bytes) :: rest => if n = name then some bytes else find? name rest

/-- The most bytes that the name of a file may have. -/
def maxNameBytes : Nat := 255

/-- The most bytes that a path may have. -/
def maxPathBytes : Nat := 4095

/-- The place of a file, whether or not the file exists. -/
inductive Place where
  | inside (name : String)
  /-- In a directory further out, where no file is known and what is written is out of sight. -/
  | outside
deriving DecidableEq

/-- The place that a path leads to.  Its parts are followed from left to right: first out of the
directory, as far as there are double dots, and then to one name, which cannot be a directory. -/
def placeOf (d : Directory) (path : String) : Except FileError Place :=
  let plain := Path.ofString path
  let isOutside := !plain.root.isEmpty || plain.parts.head? == some ".."
  if path.toList.contains (Char.ofNat 0) then .error .nullInPath
  else if maxPathBytes < plain.text.utf8ByteSize then .error (.nameTooLong plain.text)
  else
    match plain.parts.dropWhile (· == "..") with
    | [] => .error (.isDirectory plain.text)
    | name :: further =>
      -- The first name is looked up before the parts after it are looked at.
      if maxNameBytes < name.utf8ByteSize then .error (.nameTooLong plain.text)
      else if further.isEmpty then .ok (if isOutside then .outside else .inside name)
      else if !isOutside && (d.find? name).isSome then .error (.notDirectory plain.text)
      else .error (.notFound plain.text)

/-- The bytes of the file that a path leads to. -/
def read (d : Directory) (path : String) : Except FileError (List UInt8) := do
  let notFound : FileError := .notFound (Path.ofString path).text
  match ← d.placeOf path with
  | .outside => .error notFound
  | .inside name =>
    match d.find? name with
    | some bytes => return bytes
    | none => .error notFound

/-- The directory with a file of the given name and text. -/
def put (name : String) (bytes : List UInt8) : Directory → Directory
  | [] => [(name, bytes)]
  | (n, old) :: rest => if n = name then (name, bytes) :: rest else (n, old) :: put name bytes rest

/-- The directory with the file that a path leads to replaced by a text. -/
def write (d : Directory) (path text : String) : Except FileError Directory := do
  match ← d.placeOf path with
  | .outside => return d
  | .inside name => return d.put name text.toUTF8.toList

/-- The files that are new or have other bytes than before. -/
def changesSince (after before : Directory) : Directory :=
  after.filter fun file => before.find? file.1 != some file.2

end Directory

end LayerMarkup.Command
