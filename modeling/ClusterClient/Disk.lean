/-!
# Files

The part of a file system that the program sees: the directories that exist and the contents of the
files. What a path names is its place, a list of names: doubled slashes and `.` make no difference,
and `..` leads up from a directory.
-/

namespace ClusterClient

/-- Directories and files, each with its place. -/
structure Disk where
  directories : List (List String) := []
  files : List (List String × ByteArray) := []
  deriving Inhabited

namespace Disk

/-- The parts of a path; an absolute path has an empty one in front. -/
def components (path : String) : List String :=
  let parts := path.splitOn "/"
  let named := parts.filter fun part => part != "" && part != "."
  if path.startsWith "/" then "" :: named else named

/-- Whether a path is too long, has a part that is too long, is empty or holds a null character. -/
def isUnusable (path : String) : Bool :=
  path == "" || path.utf8ByteSize > 4095 || path.contains '\x00'
    || (components path).any (·.utf8ByteSize > 255)

/-- Whether a place is that of a directory. The root, the working directory and what is above it are
directories, and so is every place that something is in. -/
def isDirectory (disk : Disk) (place : List String) : Bool :=
  place == [""] || place.all (· == "..") || disk.directories.any place.isPrefixOf
    || disk.files.any fun file => place.isPrefixOf file.1 && place != file.1

/-- The place of the directory that a directory is in. The root is in itself. -/
def above? (disk : Disk) (place : List String) : Option (List String) :=
  if !disk.isDirectory place then none
  else if place == [""] then some place
  else if place.all (· == "..") then some (place ++ [".."])
  else some place.dropLast

/-- The place that a path names. -/
def place? (disk : Disk) (path : String) : Option (List String) :=
  if isUnusable path then none
  else (components path).foldlM
    (fun place part => if part == ".." then disk.above? place else some (place ++ [part])) []

/-- Whether a path names a directory. -/
def hasDirectory (disk : Disk) (path : String) : Bool := (disk.place? path).any disk.isDirectory

/-- The disk with one directory more. -/
def addDirectory (disk : Disk) (path : String) : Disk :=
  { disk with directories := (disk.place? path).toList ++ disk.directories }

/-- The disk with one file more. -/
def addFile (disk : Disk) (path : String) (content : ByteArray) : Disk :=
  { disk with files := ((disk.place? path).map (·, content)).toList ++ disk.files }

/-- The disk with one directory and the given files in it. -/
def ofDirectory (directory : String) (files : List (String × ByteArray)) : Disk :=
  files.foldr (fun file disk => disk.addFile (directory ++ "/" ++ file.1) file.2)
    (addDirectory {} directory)

/-- The paths on the way to what a path names, ending with itself. -/
def steps (path : String) : List String :=
  let parts := components path
  (List.range parts.length).map fun count =>
    match parts.take (count + 1) with
    | [""] => "/"
    | way => "/".intercalate way

/-- Whether a path is written as that of a directory: its last part is empty or `.`. -/
def endsAsDirectory (path : String) : Bool :=
  (path.splitOn "/").getLast?.any fun part => part == "" || part == "."

/-- The content of a file. -/
def read? (disk : Disk) (path : String) : Option ByteArray := do
  let place ← disk.place? path
  if endsAsDirectory path then none
  else (disk.files.find? fun file => file.1 == place).map (·.2)

/-- The content of a file of UTF-8 text. -/
def readText? (disk : Disk) (path : String) : Option String := do
  String.fromUTF8? (← disk.read? path)

/-- The disk with new content for a file, which is made if its directory exists. -/
def write? (disk : Disk) (path : String) (content : ByteArray) : Option Disk := do
  let place ← disk.place? path
  if endsAsDirectory path || disk.isDirectory place || !disk.isDirectory place.dropLast then none
  else
    let others := disk.files.filter fun file => file.1 != place
    some { disk with files := (place, content) :: others }

end Disk
end ClusterClient
