import DataDerive.CommandLine.FileProgram
import DataDerive.Text.Basic

/-!
# Trees of files

A tree of files in memory, on which a program runs as it would in a directory of
its own.  A path is followed name by name from the top of the tree; it may go up
again, but not above the top.  Paths from the root of the system lead nowhere.
-/

namespace DataDerive

/-- The names on the way from the top of a tree. -/
abbrev Route : Type := List String

/-- A tree of files. -/
structure FileTree where
  /-- The directories other than the top. -/
  directories : List Route
  /-- The files and their texts. -/
  files : List (Route × String)
  deriving Repr, DecidableEq

/-- What a route leads to. -/
inductive FileEntry where
  | directory (route : Route)
  | file (route : Route) (text : String)
  /-- Nothing, in a directory that is there. -/
  | missing (route : Route)
  deriving Repr, DecidableEq

namespace FileTree

/-- A tree without files. -/
def empty : FileTree := ⟨[], []⟩

/-- Whether a route leads to a directory. -/
def isDirectory (tree : FileTree) (route : Route) : Bool :=
  route.isEmpty || tree.directories.contains route

/-- The text of the file that a route leads to. -/
def file? (tree : FileTree) (route : Route) : Option String :=
  (tree.files.find? fun file => file.1 == route).map Prod.snd

/-- The names that a path is made of; a single point is no step. -/
def names (path : String) : List String :=
  (Text.nonemptyParts '/' path).filter (· != ".")

/-- The names of a path that can lead somewhere. -/
def steps (path : String) : FileOutcome (List String) :=
  if path.isEmpty || path.startsWith "/" then
    .error .notFound
  else if (names path).any fun name => 255 < name.utf8ByteSize then
    .error .nameTooLong
  else
    .ok (names path)

/-- Whether a path can only stand for a directory. -/
def endsInDirectory (path : String) : Bool :=
  path.endsWith "/" || path.endsWith "/."

/-- Follow names from a directory. -/
def follow (tree : FileTree) (here : Route) : List String → FileOutcome FileEntry
  | [] => .ok (.directory here)
  | ".." :: rest => if here.isEmpty then .error .notFound else tree.follow here.dropLast rest
  | name :: rest =>
      let route := here ++ [name]
      if tree.isDirectory route then
        tree.follow route rest
      else
        match tree.file? route with
        | some text => if rest.isEmpty then .ok (.file route text) else .error .notDirectory
        | none => if rest.isEmpty then .ok (.missing route) else .error .notFound

/-- What a path leads to. -/
def entry (tree : FileTree) (path : String) : FileOutcome FileEntry := do
  tree.follow [] (← steps path)

/-- The text of the file at a path. -/
def readText (tree : FileTree) (path : String) : FileOutcome String := do
  match ← tree.entry path with
  | .directory _ => throw .isDirectory
  | .missing _ => throw .notFound
  | .file _ text => if endsInDirectory path then throw .notDirectory else return text

/-- Make the directories on the way along names that are not there yet. -/
def makeAlong (tree : FileTree) (here : Route) : List String → FileOutcome FileTree
  | [] => .ok tree
  | ".." :: rest => if here.isEmpty then .error .notFound else tree.makeAlong here.dropLast rest
  | name :: rest =>
      let route := here ++ [name]
      if tree.isDirectory route then
        tree.makeAlong route rest
      else if (tree.file? route).isSome then
        .error (if rest.isEmpty then .alreadyExists else .notDirectory)
      else
        makeAlong { tree with directories := tree.directories ++ [route] } route rest

/-- Make the directory at a path and those above it.  The empty path is the top. -/
def makeDirectory (tree : FileTree) (path : String) : FileOutcome FileTree :=
  if path.isEmpty then
    .ok tree
  else
    match steps path with
    | .ok names => tree.makeAlong [] names
    | .error fault => .error fault

/-- The tree with a text as the whole of the file at a route. -/
def put (tree : FileTree) (route : Route) (text : String) : FileTree :=
  { tree with files := tree.files.filter (fun file => file.1 != route) ++ [(route, text)] }

/-- Write a text as the whole of the file at a path. -/
def writeText (tree : FileTree) (path text : String) : FileOutcome FileTree := do
  match ← tree.entry path with
  | .directory _ => throw .isDirectory
  | .missing route => if endsInDirectory path then throw .isDirectory else return tree.put route text
  | .file route _ =>
      if endsInDirectory path then throw .notDirectory else return tree.put route text

/-- The tree with a file, and the directories above it. -/
def withFile (tree : FileTree) (path text : String) : FileTree :=
  let route := names path
  match tree.makeAlong [] route.dropLast with
  | .ok tree => tree.put route text
  | .error _ => tree

/-- The tree of files given by their paths. -/
def ofFiles (files : List (String × String)) : FileTree :=
  files.foldl (fun tree (path, text) => tree.withFile path text) empty

/-- The path of a route. -/
def pathOf (route : Route) : String :=
  "/".intercalate route

/-- The files that another tree lacks, by their paths. -/
def newFiles (tree before : FileTree) : List (String × String) :=
  (tree.files.filter fun file => (before.file? file.1).isNone).map fun (route, text) =>
    (pathOf route, text)

end FileTree

/-- The outcome of an access that changes a tree, and the tree after it. -/
def FileTree.after (tree : FileTree) : FileOutcome FileTree → FileOutcome Unit × FileTree
  | .ok changed => (.ok (), changed)
  | .error fault => (.error fault, tree)

/-- Run a program on a tree of files. -/
def FileProgram.runOn (tree : FileTree) : FileProgram → Response × FileTree
  | .finish response => (response, tree)
  | .readText path next => (next (tree.readText path)).runOn tree
  | .makeDirectory path next =>
      let (outcome, tree) := tree.after (tree.makeDirectory path)
      (next outcome).runOn tree
  | .writeText path text next =>
      let (outcome, tree) := tree.after (tree.writeText path text)
      (next outcome).runOn tree

end DataDerive
