import LiveRange.Host
import LiveRange.ObjectFile

/-! A tree of files held in memory, and the host it makes for a program that runs at its root. -/

namespace LiveRange

/-- A program has a content too, since it can be read like any file. -/
inductive FileNode where
  | directory
  | file (content : Bytes)
  | program (content : Bytes) (answer : List Text → Finish)

/-- Nodes by their place below the root. A place lists names from the innermost outwards. -/
structure FileTree where
  nodes : List (List Text × FileNode) := []

namespace FileTree

def node? (tree : FileTree) : List Text → Option FileNode
  | [] => some .directory
  | place => tree.nodes.lookup place

/-- The most bytes that a single name can have. -/
def maxNameSize : Nat := 255

/-- The most bytes that a whole path can have. -/
def maxPathSize : Nat := 4095

/-- What is wrong with a name that no directory has. -/
def absence (name : Text) : FileError :=
  if (Utf8.encode name).length ≤ maxNameSize then .notFound else .nameTooLong

/-- One segment of a path, from a place in the tree or from the unknown outside. -/
def enter (tree : FileTree) : Option (List Text) → Text → Except FileError (Option (List Text))
  | none, segment =>
    if segment ∈ [[], ['.'], ['.', '.']] then .ok none else .error (absence segment)
  | some place, segment =>
    match tree.node? place with
    | none => .error .notFound
    | some .directory =>
      if segment = [] ∨ segment = ['.'] then .ok (some place)
      else if segment = ['.', '.'] then .ok (if place = [] then none else some place.tail)
      else if (tree.node? (segment :: place)).isSome then .ok (some (segment :: place))
      else .error (absence segment)
    | some _ => .error .notADirectory

/-- What stands at a path. Outside of the tree there are only directories. -/
def find (tree : FileTree) (path : Path) : Except FileError FileNode :=
  if '\x00' ∈ path then .error .nulInName
  else if path = [] then .error .notFound
  else if maxPathSize < (Utf8.encode path).length then .error .nameTooLong
  else do
    let root := if path.head? = some '/' then none else some []
    match ← (path.splitOn '/').foldlM tree.enter root with
    | none => return .directory
    | some place => return (tree.node? place).getD .directory

def read (tree : FileTree) (path : Path) : Except FileError Bytes := do
  match ← tree.find path with
  | .directory => throw .isADirectory
  | .file content => return content
  | .program content _ => return content

/-- A program is named by a path. A bare name is looked for in directories elsewhere, which are taken
to be empty. They still have the two names for themselves and their parents. -/
def start (tree : FileTree) (call : Invocation) : Except FileError Finish :=
  if '\x00' ∈ call.program ∨ ∃ argument ∈ call.arguments, '\x00' ∈ argument then
    .error .nulInArgument
  else if '/' ∉ call.program then
    .error (if call.program ∈ [['.'], ['.', '.']] then .permissionDenied else absence call.program)
  else do
    match ← tree.find call.program with
    | .program _ answer => return answer call.arguments
    | _ => throw .permissionDenied

/-- Puts a directory at a place where there is nothing yet. -/
def makeDirectory (tree : FileTree) (place : List Text) : FileTree :=
  if (tree.node? place).isSome then tree else { nodes := (place, .directory) :: tree.nodes }

/-- The place below the root that a segment leads to, made a directory. -/
def descend (state : FileTree × List Text) (segment : Text) : FileTree × List Text :=
  if segment = [] ∨ segment = ['.'] then state
  else if segment = ['.', '.'] then (state.1, state.2.tail)
  else (state.1.makeDirectory (segment :: state.2), segment :: state.2)

/-- Puts a node at a path, with the directories that lead there. -/
def write (tree : FileTree) (path : Path) (node : FileNode) : FileTree :=
  let segments := path.splitOn '/'
  let (tree, place) := segments.dropLast.foldl descend (tree, [])
  match segments.getLast? with
  | some name => { nodes := (name :: place, node) :: tree.nodes }
  | none => tree

def host (tree : FileTree) (settings : List (Text × Text)) : Host where
  read := tree.read
  present path := (tree.find path).isOk
  start := tree.start
  environment? name := settings.lookup name
  inspect := Machine.inspect

end FileTree

end LiveRange
