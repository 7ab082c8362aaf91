/-!
# Folders

A `Folder` is a working directory without subdirectories, its files held in memory. Reading from it
fails for the same reasons (`ReadFault`), and in the same order, as reading from a disk: the parts
of the path are gone through one by one, and what is found at the end has to be a file of UTF-8
text.
-/

namespace RootedHeap

/-- Why a file could not be read as text. -/
inductive ReadFault where
  | notFound
  | notADirectory
  | isADirectory
  /-- The file's bytes are not UTF-8. -/
  | notText
  /-- Any other reason, in the words of the system. -/
  | other (description : String)
deriving DecidableEq, Repr

/-- How the reason is reported. -/
def ReadFault.text : ReadFault → String
  | notFound => "No such file or directory (os error 2)"
  | notADirectory => "Not a directory (os error 20)"
  | isADirectory => "Is a directory (os error 21)"
  | notText => "stream did not contain valid UTF-8"
  | other description => description

/-- The files of a directory, by name. -/
structure Folder where
  files : List (String × ByteArray)

namespace Folder

/-- The text of a file. -/
def decode (bytes : ByteArray) : Except ReadFault String :=
  match String.fromUTF8? bytes with
  | some text => .ok text
  | none => .error .notText

/-- Follows the parts of a path from the folder. Nothing can follow the name of a file. Outside of
the folder only the directories above it are known to exist. -/
def follow (folder : Folder) : List String → Except ReadFault String
  | [] => .error .isADirectory
  | part :: rest =>
    if part = "" ∨ part = "." then folder.follow rest
    else if part = ".." then
      if rest.all (["", ".", ".."].contains ·) then .error .isADirectory else .error .notFound
    else match folder.files.lookup part with
      | none => .error .notFound
      | some bytes => if rest.isEmpty then decode bytes else .error .notADirectory

/-- The text of the file at a path. -/
def read (folder : Folder) (path : String) : Except ReadFault String :=
  match path.splitOn "/" with
  | [""] => .error .notFound
  | "" :: rest =>
    if rest.all (["", ".", ".."].contains ·) then .error .isADirectory else .error .notFound
  | parts => folder.follow parts

end Folder

end RootedHeap
