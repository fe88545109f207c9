/-!
# Directories and paths

A directory is a list of files by their paths below it.  A path is followed name by name: every
name but the last must be that of a directory that exists.  A path may lead out of the directory;
what is written there is not seen again.
-/

namespace DenseDmg

/-- The text of a file that holds the given lines. -/
def fileText (lines : Array String) : String :=
  lines.foldl (fun text line => text ++ line ++ "\n") ""

/-- Where a path leads: to a file of the directory, whether it exists or not; to a file outside;
or nowhere that a file could be. -/
inductive Place
  | file (path : String)
  | outside
  | nowhere
deriving DecidableEq, Inhabited

/-- The longest path, in bytes. -/
def maxPathBytes : Nat := 4095

/-- The longest name of a file, in bytes. -/
def maxNameBytes : Nat := 255

/-- Whether a name stands for no directory but the one it is in; the empty name stands between
slashes that follow each other and behind one at the end. -/
def isHere (name : String) : Bool := name == "" || name == "."

/-- Whether the last name of a path may be that of a file. -/
def isFileName (name : String) : Bool :=
  !isHere name && name != ".." && name.utf8ByteSize ≤ maxNameBytes

/-- A directory with the files in it, by path from there. -/
structure Directory where
  files : List (String × String)
deriving Inhabited

namespace Directory

/-- Whether a directory lies below at the given names: some file is in it. -/
def holds (d : Directory) (names : List String) : Bool :=
  d.files.any fun (path, _) =>
    let above := (path.splitOn "/").dropLast
    above.take names.length == names

/-- Where the rest of a path leads that has left the directory.  Only the directories above are
known to exist. -/
def followOutside : List String → Place
  | [] => .nowhere
  | [name] => if isFileName name then .outside else .nowhere
  | name :: rest => if isHere name || name == ".." then followOutside rest else .nowhere

/-- Where the rest of a path leads, from the directory at the given names on. -/
def follow (d : Directory) (names : List String) : List String → Place
  | [] => .nowhere
  | [name] =>
    if isFileName name && !d.holds (names ++ [name]) then
      .file ("/".intercalate (names ++ [name]))
    else .nowhere
  | name :: rest =>
    if isHere name then d.follow names rest
    else if name == ".." then
      if names.isEmpty then followOutside rest else d.follow names.dropLast rest
    else if d.holds (names ++ [name]) then d.follow (names ++ [name]) rest
    else .nowhere

/-- Where a path leads.  Of the paths from the root only the device that swallows everything is
known. -/
def place (d : Directory) (path : String) : Place :=
  if maxPathBytes < path.utf8ByteSize then .nowhere
  else
    match path.splitOn "/" with
    | "" :: names =>
      if names.filter (!isHere ·) == ["dev", "null"] && names.getLast? == some "null" then .outside
      else .nowhere
    | names => d.follow [] names

/-- Whether a file can be created at a path, in place of one that is there already. -/
def canCreate (d : Directory) (path : String) : Bool := d.place path != .nowhere

/-- The text of the file at a path, if there is one. -/
def read? (d : Directory) (path : String) : Option String :=
  match d.place path with
  | .file name => d.files.lookup name
  | _ => none

/-- Write a file, in place of one that is there already. -/
def write (d : Directory) (path text : String) : Directory :=
  match d.place path with
  | .file name => ⟨(name, text) :: d.files.filter fun (f, _) => f != name⟩
  | _ => d

end Directory

end DenseDmg
