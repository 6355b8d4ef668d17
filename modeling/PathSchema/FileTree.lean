import PathSchema.Path

/-!
# Files and directories

A file tree is found by a path from its root.  A path that ends in a slash names a
directory; one dot is the directory itself and two dots are the one around it.  The names
of files are texts; what they hold need not be one.
-/

namespace PathSchema

/-- A file with its bytes, or a directory with what it holds. -/
inductive FileTree where
  | file (content : ByteArray)
  | directory (entries : List (String × FileTree))

namespace FileTree

/-- What stands in a directory under a name. -/
def entry? : FileTree → String → Option FileTree
  | file _, _ => none
  | directory entries, name => entries.lookup name

def isDirectory : FileTree → Bool
  | file _ => false
  | directory _ => true

/-- Puts a tree at a path of names, with the directories on the way to it.  An empty
directory leaves one that is there as it is. -/
def insert (new : FileTree) : List String → FileTree → FileTree
  | [], old =>
    match new, old with
    | directory [], directory _ => old
    | _, _ => new
  | name :: path, file _ => .directory [(name, insert new path (.directory []))]
  | name :: path, directory entries =>
    let inner := insert new path ((entries.lookup name).getD (.directory []))
    .directory (entries.filter (·.1 != name) ++ [(name, inner)])

/-- Follows the pieces of a path.  The directories passed through are kept, the last
one first, so that two dots lead back. -/
def follow : List FileTree → List String → Option FileTree
  | [], _ => none
  | here :: _, [] => some here
  | here :: around, piece :: rest =>
    if !here.isDirectory then none
    else if piece = "" || piece = "." then follow (here :: around) rest
    else if piece = ".." then follow around rest
    else (here.entry? piece).bind fun next => follow (next :: here :: around) rest

/-- What stands at a path below a directory. -/
def find? (root : FileTree) (path : String) : Option FileTree :=
  if path.isEmpty || path.startsWith "/" then none
  else follow [root] (Path.splitAll path)

def joinPath (path name : String) : String :=
  if path.endsWith "/" then path ++ name else path ++ "/" ++ name

/-- The last name of a path; dots that stay in place and slashes at the end do not count. -/
def lastName (path : String) : String :=
  let isPlace := fun (piece : String) => piece = "" || piece = "."
  let trailing := (Path.splitAll path).reverse
  ((trailing.dropWhile isPlace).head?).getD ""

/-- What follows the last dot of a path's last name, unless nothing precedes the dot. -/
def extension? (path : String) : Option String :=
  let name := (lastName path).toList
  if name = ['.', '.'] then none
  else
    let reversed := name.reverse
    let ending := reversed.takeWhile (· != '.')
    if ending.length + 1 < name.length then some (String.ofList ending.reverse) else none

mutual

/-- All files of a tree with their paths, given the path of the tree.  The entries of a
directory come in the order in which it holds them. -/
def files (path : String) : FileTree → List (String × ByteArray)
  | file content => [(path, content)]
  | directory entries => filesOfEntries path entries

/-- All files below some entries of a directory. -/
def filesOfEntries (path : String) : List (String × FileTree) → List (String × ByteArray)
  | [] => []
  | (name, tree) :: rest => files (joinPath path name) tree ++ filesOfEntries path rest

end

mutual

/-- A tree whose directories hold their entries in the order of the names. -/
def sorted : FileTree → FileTree
  | file content => .file content
  | directory entries =>
    .directory ((sortedEntries entries).mergeSort fun x y => decide (x.1 ≤ y.1))

/-- Entries of a directory, each of them sorted. -/
def sortedEntries : List (String × FileTree) → List (String × FileTree)
  | [] => []
  | (name, tree) :: rest => (name, sorted tree) :: sortedEntries rest

end

end FileTree

/-- What a command finds around it: files by their paths, environment variables by
their names, and the directory of the user's configurations. -/
structure Surroundings where
  files : String → Option FileTree
  environment : String → Option String
  configHome : Option String := none

namespace Surroundings

/-- Why a text cannot be had from a file. -/
inductive ReadingProblem where
  | absent
  /-- The path is that of a directory, or the bytes are no text. -/
  | unreadable
  deriving DecidableEq

/-- The text of a file. -/
def read (surroundings : Surroundings) (path : String) : Except ReadingProblem String :=
  match surroundings.files path with
  | none => .error .absent
  | some (.directory _) => .error .unreadable
  | some (.file content) =>
    match String.fromUTF8? content with
    | some text => .ok text
    | none => .error .unreadable

end Surroundings

end PathSchema
