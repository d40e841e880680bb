import SerialDialogue.Dialogue

/-!
# Directories

A directory with some files in it, and the little that every system has around it, as
the surroundings of a dialogue.  A path is followed part by part, so the first part that
cannot be followed decides what the system says.
-/

namespace SerialDialogue

namespace SystemError

def missing : SystemError := ⟨"No such file or directory", some 2⟩

/-- A path goes on behind a file. -/
def notDirectory : SystemError := ⟨"Not a directory", some 20⟩

/-- A directory was asked for its content. -/
def isDirectory : SystemError := ⟨"Is a directory", some 21⟩

/-- A path, or a part of it, is too long. -/
def nameTooLong : SystemError := ⟨"File name too long", some 36⟩

/-- A path has a character that no file name can have; the system is not even asked. -/
def nulByte : SystemError := ⟨"file name contained an unexpected NUL byte", none⟩

end SystemError

/-- Where a path leads. -/
inductive Place where
  /-- A directory of the system, under the parts of its path from the root, if these are
  known. -/
  | outside (path : Option (List String))
  /-- The directory that dialogues find their files in, or one below it. -/
  | inside (path : List String)
  | file (content : ByteArray)

namespace Place

/-- The directories that every system has. -/
def directories : List (List String) :=
  [[], ["dev"], ["etc"], ["tmp"], ["usr"]]

/-- What is at a path of the system; the null device has no content. -/
def ofSystem? (path : List String) : Option Place :=
  if path = ["dev", "null"] then some (.file .empty)
  else if directories.contains path then some (.outside path)
  else none

end Place

/-- A directory: its files, each under the parts of its path. -/
structure Directory where
  files : List (List String × ByteArray)

namespace Directory

/-- The parts of a path; two slashes in a row, or one at the end, make an empty part. -/
def parts (path : String) : List String :=
  (Text.pieces '/' path.toList).map String.ofList

/-- A part of a path that stays where it is. -/
def stays (part : String) : Bool :=
  part = "" || part = "."

/-- A directory with the given files under their paths. -/
def ofFiles (files : List (String × ByteArray)) : Directory :=
  ⟨files.map fun (path, content) => ((parts path).filter (!stays ·), content)⟩

def at? (directory : Directory) (path : List String) : Option Place :=
  match directory.files.find? (·.1 = path) with
  | some (_, content) => some (.file content)
  | none =>
      if directory.files.any fun file => path.isPrefixOf file.1 then some (.inside path)
      else none

/-- The largest number of bytes in a part of a path. -/
def partLimit : Nat := 255

/-- The largest number of bytes in a path. -/
def pathLimit : Nat := 4095

/-- The directory that a directory is in; the root is in itself. -/
def above : Place → Place
  | .inside [] => .outside none
  | .inside path => .inside path.dropLast
  | .outside path => .outside (path.map List.dropLast)
  | .file content => .file content

def below? (directory : Directory) (name : String) : Place → Option Place
  | .inside path => directory.at? (path ++ [name])
  | .outside (some path) => Place.ofSystem? (path ++ [name])
  | _ => none

def follow (directory : Directory) (place : Place) (part : String) : Except SystemError Place :=
  match place with
  | .file _ => .error .notDirectory
  | place =>
      if stays part then .ok place
      else if part = ".." then .ok (above place)
      else if partLimit < part.utf8ByteSize then .error .nameTooLong
      else
        match directory.below? part place with
        | some next => .ok next
        | none => .error .missing

/-- Follow a path from the directory, or from the root of the system. -/
def locate (directory : Directory) (path : String) : Except SystemError Place :=
  if path.toList.contains '\x00' then .error .nulByte
  else if path.isEmpty then .error .missing
  else if pathLimit < path.utf8ByteSize then .error .nameTooLong
  else
    let start := if path.toList.head? = some '/' then Place.outside (some []) else .inside []
    (parts path).foldlM directory.follow start

def read (directory : Directory) (path : String) : Except SystemError ByteArray :=
  match directory.locate path with
  | .ok (.file content) => .ok content
  | .ok _ => .error .isDirectory
  | .error cause => .error cause

/-- What the system says when what is at a path is opened as a serial line: a file is
none, and neither is a directory. -/
def refusal (directory : Directory) (path : String) : String :=
  match directory.locate path with
  | .ok (.file _) => "Not a typewriter"
  | .ok _ => SystemError.isDirectory.text
  | .error cause => if cause = .nulByte then "Invalid argument" else cause.text

/-- The surroundings of a dialogue that finds its files in a directory, and no device. -/
def surroundings (directory : Directory) : Surroundings Id where
  readFile := directory.read
  openDevice serial := .error (directory.refusal serial.device)

end Directory

end SerialDialogue
