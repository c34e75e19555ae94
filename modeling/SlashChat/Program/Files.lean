/-!
# Files

What can go wrong with a file, and a directory as the program finds it: the files in it and the
directories in it, by their paths from there.  Of what is outside the directory only that is known
which every system has at its root.
-/

set_option autoImplicit false

namespace SlashChat.Program

/-- Why a file could not be read or written. -/
inductive FileError
  | missing
  | isDirectory
  | notDirectory
  | nameTooLong
  /-- Any other reason, in the words of the system. -/
  | other (reason : String)
deriving DecidableEq, Repr, Inhabited

/-- The words for a file error. -/
def FileError.message : FileError → String
  | .missing => "No such file or directory (os error 2)"
  | .isDirectory => "Is a directory (os error 21)"
  | .notDirectory => "Not a directory (os error 20)"
  | .nameTooLong => "File name too long (os error 36)"
  | .other reason => reason

/-- The words for bytes that are no text. -/
def notText : String := "stream did not contain valid UTF-8"

/-- A directory that the program runs in. -/
structure Directory where
  /-- The files, by path. -/
  files : List (String × List UInt8) := []
  /-- The directories in it, by path. -/
  folders : List String := []
deriving Repr, Inhabited

namespace Directory

/-- Where a path leads, seen from the directory. -/
inductive Place
  /-- The directory itself or one in it, by the names on the way. -/
  | inside (names : List String)
  /-- A directory at the root of the system, or the root itself, by the names on the way. -/
  | system (names : List String)
  /-- A directory above the directory, of which nothing is known. -/
  | above
deriving DecidableEq, Repr, Inhabited

/-- The path with these names. -/
def pathOf (names : List String) : String := String.intercalate "/" names

/-- The names that a way has passed, one part further.  An empty part and a point stay where they
are, and two points go back. -/
def follow (names : List String) (part : String) : List String :=
  if part == "" || part == "." then names
  else if part == ".." then names.dropLast
  else names ++ [part]

/-- The names that lead where a path leads, without detours. -/
def namesOf (path : String) : List String := (path.splitOn "/").foldl follow []

/-- The directories that a path passes. -/
def passed (parts : List String) : List String :=
  (List.range parts.length).map fun n => pathOf ((parts.take (n + 1)).foldl follow [])

/-- The directory that holds these files and directories, each by any path that leads to it.  Of two
files with one name the latter is there. -/
def ofEntries (files : List (String × List UInt8)) (folders : List String) : Directory where
  files := files.foldl (fun kept (path, bytes) =>
    kept.filter (·.1 != pathOf (namesOf path)) ++ [(pathOf (namesOf path), bytes)]) []
  folders := folders.flatMap (fun path => passed (path.splitOn "/")) ++
    files.flatMap fun (path, _) => passed (path.splitOn "/").dropLast

/-- The content of a file. -/
def content? (directory : Directory) (names : List String) : Option (List UInt8) :=
  (directory.files.find? (·.1 == pathOf names)).map Prod.snd

/-- Whether there is a directory with these names. -/
def hasFolder (directory : Directory) (names : List String) : Bool :=
  names.isEmpty || directory.folders.contains (pathOf names) ||
    (directory.files.map Prod.fst ++ directory.folders).any fun path =>
      ((pathOf names).toList ++ ['/']).isPrefixOf path.toList

/-- How many bytes a name may take. -/
def nameLimit : Nat := 255

/-- How many bytes a path may take. -/
def pathLimit : Nat := 4095

/-- Why nothing can be at a name where nothing is: the name is too long, or else nothing is. -/
def absent (name : String) : FileError :=
  if nameLimit < name.utf8ByteSize then .nameTooLong else .missing

/-- The directories at the root of every system. -/
def systemFolders : List String := ["dev", "etc", "proc", "tmp", "usr", "var"]

/-- The file of every system that is always empty and keeps nothing. -/
def isNullFile (names : List String) : Bool := names == ["dev", "null"]

/-- Whether there is a directory with these names at the root of every system. -/
def isSystemFolder (names : List String) : Bool :=
  match names with
  | [] => true
  | [name] => systemFolders.contains name
  | _ => false

/-- The place in a directory that a name leads to, if it leads to a directory. -/
def enter (directory : Directory) (name : String) : Place → Except FileError Place
  | .inside names =>
    let names := names ++ [name]
    if (directory.content? names).isSome then .error .notDirectory
    else if directory.hasFolder names then .ok (.inside names)
    else .error (absent name)
  | .system names =>
    let names := names ++ [name]
    if isNullFile names then .error .notDirectory
    else if isSystemFolder names then .ok (.system names)
    else .error (absent name)
  | .above => .error (absent name)

/-- The place that two points lead to. -/
def Place.parent : Place → Place
  | .inside [] | .above => .above
  | .inside names => .inside names.dropLast
  | .system names => .system names.dropLast

/-- The directory that the parts of a path lead to. -/
def walk (directory : Directory) (place : Place) : List String → Except FileError Place
  | [] => .ok place
  | part :: rest =>
    if part == "" || part == "." then directory.walk place rest
    else if part == ".." then directory.walk place.parent rest
    else
      match directory.enter part place with
      | .ok place => directory.walk place rest
      | .error e => .error e

/-- Why a text is no path, if it is none. -/
def pathFault? (path : String) : Option FileError :=
  if path == "" then some .missing
  else if path.toList.contains (Char.ofNat 0) then
    some (.other "file name contained an unexpected NUL byte")
  else if pathLimit < path.utf8ByteSize then some .nameTooLong
  else none

/-- The directory and the name in it that a path leads to; the name is empty or made of points if
the path leads to a directory. -/
def locate (directory : Directory) (path : String) : Except FileError (Place × String) :=
  match pathFault? path with
  | some e => .error e
  | none =>
    let parts := path.splitOn "/"
    let start := if path.toList.head? == some '/' then Place.system [] else .inside []
    match directory.walk start parts.dropLast with
    | .error e => .error e
    | .ok place => .ok (place, parts.getLast?.getD "")

/-- Whether a name leads to a directory wherever it stands. -/
def isPoints (name : String) : Bool := name == "" || name == "." || name == ".."

/-- The file at a name in a place, if it is a file. -/
def fileAt (directory : Directory) (name : String) (place : Place) :
    Except FileError (List UInt8) :=
  match place with
  | .inside names =>
    match directory.content? (names ++ [name]) with
    | some bytes => .ok bytes
    | none => .error (if directory.hasFolder (names ++ [name]) then .isDirectory else absent name)
  | .system names =>
    if isNullFile (names ++ [name]) then .ok []
    else .error (if isSystemFolder (names ++ [name]) then .isDirectory else absent name)
  | .above => .error (absent name)

/-- What reading the file at a path gives. -/
def read (directory : Directory) (path : String) : Except FileError (List UInt8) :=
  match directory.locate path with
  | .error e => .error e
  | .ok (place, name) => if isPoints name then .error .isDirectory else directory.fileAt name place

/-- Whether a path says that it leads to a directory, by the slash at its end. -/
def endsInSlash (path : String) : Bool := path.toList.getLast? == some '/'

/-- A path without the slashes at its end. -/
def withoutSlashes (path : String) : String :=
  String.ofList (path.toList.reverse.dropWhile (· == '/')).reverse

/-- The directory after the file at a name in a place has been written.  Outside the directory no
new file can be written. -/
def put (directory : Directory) (name : String) (bytes : List UInt8) (place : Place) :
    Except FileError Directory :=
  match directory.fileAt name place, place with
  | .ok _, .inside names | .error .missing, .inside names =>
    let path := pathOf (names ++ [name])
    .ok { directory with files := directory.files.filter (·.1 != path) ++ [(path, bytes)] }
  | .ok _, _ => .ok directory
  | .error e, _ => .error e

/-- The directory after the file at a path has been written.  No path with a slash at its end is
that of a file that can be written, whether there is something there or not. -/
def write (directory : Directory) (path : String) (bytes : List UInt8) :
    Except FileError Directory :=
  match pathFault? path with
  | some e => .error e
  | none =>
    if endsInSlash path && withoutSlashes path != "" then
      match directory.locate (withoutSlashes path) with
      | .error e => .error e
      | .ok _ => .error .isDirectory
    else
      match directory.locate path with
      | .error e => .error e
      | .ok (place, name) =>
        if isPoints name then .error .isDirectory else directory.put name bytes place

end Directory

end SlashChat.Program
