/-!
# Reading a file by name

A name is a sequence of parts with slashes between them.  Part after part leads from a directory to
a file or to another directory; a part that leads nowhere, a file in the midst of a name, and a name
that ends at a directory are the ways in which a look-up fails.  Some names are not looked up at
all: those with a null character, and those that are too long, as a whole or in the part that comes
next. A file that is found may still not be a text, if its bytes are no UTF-8.

`Directory.read` looks names up in a directory that holds files and no directories.
-/

namespace PagedMemory

/-- Why a file could not be read as a text.  The last case leaves room for the failures of a real
file system. -/
inductive ReadFailure where
  | missing
  | notADirectory
  | isADirectory
  | nameTooLong
  | nullInName
  | notText
  | other (description : String)
deriving DecidableEq

/-- The failure in words. -/
def ReadFailure.describe : ReadFailure → String
  | missing => "No such file or directory (os error 2)"
  | notADirectory => "Not a directory (os error 20)"
  | isADirectory => "Is a directory (os error 21)"
  | nameTooLong => "File name too long (os error 36)"
  | nullInName => "file name contained an unexpected NUL byte"
  | notText => "stream did not contain valid UTF-8"
  | other description => description

/-- The text that bytes encode. -/
def decodeText (bytes : ByteArray) : Except ReadFailure String :=
  match String.fromUTF8? bytes with
  | some text => .ok text
  | none => .error .notText

/-- The files of a directory, by name. -/
structure Directory where
  files : List (String × ByteArray) := []

namespace Directory

/-- Where the parts of a name have led so far. -/
inductive Place where
  /-- The directory itself. -/
  | home
  /-- A directory above it, of which nothing is known. -/
  | above
  /-- A file with the given bytes. -/
  | file (bytes : ByteArray)

/-- The most bytes that a name has. -/
def nameLimit : Nat := 4095

/-- The most bytes that a part of a name has. -/
def partLimit : Nat := 255

/-- Follows one part of a name. -/
def follow (directory : Directory) (place : Place) (part : String) : Except ReadFailure Place :=
  match place with
  | .file _ => .error .notADirectory
  | .home =>
    if partLimit < part.utf8ByteSize then .error .nameTooLong
    else if part = "" ∨ part = "." then .ok .home
    else if part = ".." then .ok .above
    else match directory.files.lookup part with
      | some bytes => .ok (.file bytes)
      | none => .error .missing
  | .above =>
    if partLimit < part.utf8ByteSize then .error .nameTooLong
    else if part = "" ∨ part = "." ∨ part = ".." then .ok .above
    else .error .missing

/-- The place that a name leads to.  A name that begins with a slash starts outside. -/
def locate (directory : Directory) (name : String) : Except ReadFailure Place :=
  if name.toList.contains '\x00' then .error .nullInName
  else if nameLimit < name.utf8ByteSize then .error .nameTooLong
  else
    ((name.toList.splitOn '/').map String.ofList).foldlM directory.follow
      (if name.startsWith "/" then Place.above else .home)

/-- The text of the file with the given name. -/
def read (directory : Directory) (name : String) : Except ReadFailure String := do
  match ← directory.locate name with
  | .file bytes => decodeText bytes
  | _ => throw .isADirectory

end Directory

end PagedMemory
