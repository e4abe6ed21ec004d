import KindExpr.Text.Encoded

/-!
# Files

The files of a directory, by name, with their texts. A path leads to one of
them, to a directory or to nothing: `Files.follow` goes along the parts of a
path from one directory to the next.

Around the directory of the files nothing is known but that the directories around it are
there. From the root a path leads to the directories that every system has.

A path is brought into a normal form before it is followed: repeated slashes,
parts that are a single dot and a slash at the end have no meaning. Two slashes at
the start, and no more, are kept.
-/

namespace KindExpr

namespace FilePath

/-- Split a text at every slash. -/
def splitParts : List Code → List (List Code)
  | [] => [[]]
  | c :: rest =>
      match splitParts rest with
      | [] => [[c]]
      | part :: parts => if c = '/' then [] :: part :: parts else (c :: part) :: parts

/-- The parts of a path that have a meaning. -/
def parts (path : List Code) : List (List Code) :=
  (splitParts path).filter fun part => part ≠ [] && part ≠ [.char '.']

/-- The slashes that make a path absolute. -/
def root : List Code → List Code
  | .char '/' :: .char '/' :: .char '/' :: _ => ['/']
  | .char '/' :: .char '/' :: _ => ['/', '/']
  | .char '/' :: _ => ['/']
  | _ => []

/-- The normal form of a path. -/
def normalize (path : Text) : Text :=
  let chars := path.toList
  let names := (parts chars).map Text.ofList
  let text := Text.ofList (root chars) ++ Text.intercalate "/" names
  if text.isEmpty then "." else text

end FilePath

/-- The texts of the files of a directory, by name. -/
structure Files where
  entries : List (Text × String)
  deriving Repr

/-- Why a path gives no text. -/
inductive FileFault where
  | missing (path : Text)
  | directory (path : Text)
  | notDirectory (path : Text)
  | nameTooLong (path : Text)
  /-- A stretch of a path at a position has no bytes. -/
  | notEncodable (position : Nat) (stretch : List Code)
  /-- A path holds a null character. -/
  | nullCharacter
  deriving Repr, DecidableEq

/-- The message of a fault. -/
def FileFault.message : FileFault → Text
  | missing path => "[Errno 2] No such file or directory: " ++ Text.quote path
  | directory path => "[Errno 21] Is a directory: " ++ Text.quote path
  | notDirectory path => "[Errno 20] Not a directory: " ++ Text.quote path
  | nameTooLong path => "[Errno 36] File name too long: " ++ Text.quote path
  | notEncodable position stretch =>
      Text.encodingMessage "utf-8" position stretch "surrogates not allowed"
  | nullCharacter => "embedded null byte"

/-- What a path leads to. -/
inductive FileStatus where
  | file (text : String)
  | directory
  | missing
  /-- The path goes on behind a file. -/
  | notDirectory
  | nameTooLong
  deriving Repr, DecidableEq

/-- A directory: the names that lead to it from the root or from
the directory of the files. -/
structure Location where
  rooted : Bool
  names : List (List Code)
  deriving Repr, DecidableEq

namespace Location

/-- The name of the directory around a directory. -/
def upward : List Code := ['.', '.']

/-- The directory around a directory. The root is around itself. -/
def parent (location : Location) : Location :=
  if !location.rooted && location.names.all (· = upward) then
    { location with names := location.names ++ [upward] }
  else { location with names := location.names.dropLast }

/-- What a name in a directory stands for. -/
def child (location : Location) (name : List Code) : Location :=
  { location with names := location.names ++ [name] }

/-- The location that a path names. -/
def ofPath (path : Text) : Location :=
  ⟨FilePath.root path.toList ≠ [], FilePath.parts path.toList⟩

/-- Whether a location is below another one. -/
def isBelow (location other : Location) : Bool :=
  location.rooted = other.rooted && other.names.isPrefixOf location.names &&
    location ≠ other

end Location

namespace Files

/-- The directories that every system has below its root. -/
def systemDirectories : List Text :=
  ["bin", "dev", "etc", "home", "lib", "opt", "proc", "root", "run", "sbin", "sys",
    "tmp", "usr",
    "var"]

/-- The path of the file that is always empty. -/
def emptyFile : Text := "/dev/null"

/-- How many bytes a name may have. -/
def longestName : Nat := 255

/-- How many bytes a path may have. -/
def longestPath : Nat := 4095

/-- The number of bytes of a code point in a path, if it has any there. Of the surrogates
128 stand for the bytes that are no text. -/
def byteSize? : Code → Option Nat
  | .char c => some c.utf8Size
  | .surrogate index => if 0x480 ≤ index.val ∧ index.val < 0x500 then some 1 else none

/-- The number of bytes of a path or of a part of it. -/
def byteSize (name : List Code) : Nat :=
  name.foldl (fun size c => size + (byteSize? c).getD 0) 0

/-- Whether a location is a directory. -/
def isDirectory (files : Files) (location : Location) : Bool :=
  (files.entries.any fun entry => (Location.ofPath entry.1).isBelow location) ||
    (location.rooted && systemDirectories.any fun name => location.names = [name.toList])

/-- The text of the file at a location. -/
def textAt? (files : Files) (location : Location) : Option String :=
  match files.entries.find? fun entry => Location.ofPath entry.1 = location with
  | some entry => some entry.2
  | none => if location = Location.ofPath emptyFile then some "" else none

/-- Go along the parts of a path from a directory. -/
def follow (files : Files) : Location → List (List Code) → FileStatus
  | _, [] => .directory
  | location, name :: rest =>
      if name = [] ∨ name = [.char '.'] then follow files location rest
      else if name = Location.upward then follow files location.parent rest
      else if byteSize name > longestName then .nameTooLong
      else
        match files.textAt? (location.child name) with
        | some text => if rest = [] then .file text else .notDirectory
        | none =>
            if files.isDirectory (location.child name) then
              follow files (location.child name) rest
            else .missing

/-- What a path leads to as it is written. -/
def status (files : Files) (path : Text) : FileStatus :=
  if byteSize path.toList > longestPath then .nameTooLong
  else if path.isEmpty then .missing
  else files.follow ⟨FilePath.root path.toList ≠ [], []⟩ (FilePath.splitParts path.toList)

/-- Why a path cannot be looked for at all, if it cannot. The stretch without bytes that
is named ends where the surrogates end. -/
def pathFault? (path : Text) : Option FileFault :=
  let encodable := path.toList.takeWhile fun c => (byteSize? c).isSome
  match path.toList.drop encodable.length with
  | [] => if encodable.contains '\x00' then some .nullCharacter else none
  | rest => some (.notEncodable encodable.length (rest.takeWhile fun c => c.char?.isNone))

/-- The text of the file that a path leads to. -/
def read (files : Files) (path : Text) : Except FileFault String :=
  let path := FilePath.normalize path
  match pathFault? path with
  | some fault => .error fault
  | none =>
      match files.status path with
      | .file text => .ok text
      | .directory => .error (.directory path)
      | .missing => .error (.missing path)
      | .notDirectory => .error (.notDirectory path)
      | .nameTooLong => .error (.nameTooLong path)

end Files
end KindExpr
