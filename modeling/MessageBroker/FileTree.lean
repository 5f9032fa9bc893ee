/-!
# Files as a tree

The files a program can see, as a tree of directories below the root. A path is a text of names
separated by slashes, followed name by name from the working directory, or from the root when it
begins with a slash: each step starts from a directory that exists, an empty name and `.` stay
there, and `..` leads one level up, where the root is its own parent. So a path that ends in a slash
names a directory. The empty path names nothing, and neither does one that holds a NUL or is too
long, as a whole or in one of its names.
-/

set_option autoImplicit false

namespace MessageBroker

/-- What stands at a path. -/
inductive FileNode where
  | file (content : ByteArray)
  | directory

/-- What reading a path as text gives. -/
inductive FileState where
  | absent
  /-- A directory, or a file that is not text. -/
  | unreadable
  | text (content : String)
  deriving DecidableEq, Repr

/-- A tree of files: the nodes by their names from the root. -/
structure FileTree where
  /-- Names that lead from the root to the working directory. -/
  working : List String := []
  nodes : List (List String × FileNode) := []

namespace FileTree

/-- The node at a list of names from the root. The working directory and those above it always
exist. -/
def nodeAt? (tree : FileTree) (names : List String) : Option FileNode :=
  if names.isPrefixOf tree.working then some .directory else tree.nodes.lookup names

/-- True of directories. -/
def isDirectory (tree : FileTree) (names : List String) : Bool :=
  match tree.nodeAt? names with
  | some .directory => true
  | _ => false

/-! ## Paths -/

/-- Bytes of the longest path. -/
def maxPathBytes : Nat := 4095

/-- Bytes of the longest name. -/
def maxNameBytes : Nat := 255

/-- Names of a path; nothing for a text that is not a path. -/
def segments? (path : String) : Option (List String) :=
  if path.isEmpty ∨ path.toList.contains '\x00' ∨ maxPathBytes < path.utf8ByteSize then none
  else some (path.splitOn "/")

/-- The position a path starts from. -/
def start (tree : FileTree) (path : String) : List String :=
  if path.toList.head? = some '/' then [] else tree.working

/-- Follows one name from a position; nothing when the name is too long. -/
def move? (position : List String) (name : String) : Option (List String) :=
  if name = "" ∨ name = "." then some position
  else if name = ".." then some position.dropLast
  else if maxNameBytes < name.utf8ByteSize then none
  else some (position ++ [name])

/-- Follows names; there must be a directory at each position on the way, but nothing need be at the
last one. -/
def walk? (tree : FileTree) (position : List String) : List String → Option (List String)
  | [] => some position
  | name :: rest =>
    if tree.isDirectory position then (move? position name).bind fun next => tree.walk? next rest
    else none

/-- The position a path leads to. -/
def locate? (tree : FileTree) (path : String) : Option (List String) :=
  (segments? path).bind (tree.walk? (tree.start path))

/-- The directory part of a path in reverse: slashes and `.` at its end do not count. -/
def stripReversed : List Char → List Char
  | '/' :: rest => stripReversed rest
  | '.' :: '/' :: rest => stripReversed rest
  | cs => cs

/-- The directory part of a path: all before its last name. -/
def parent (path : String) : String :=
  String.ofList
    (stripReversed ((stripReversed path.toList.reverse).dropWhile (· != '/'))).reverse

/-! ## Reading -/

/-- The node at a path. -/
def node? (tree : FileTree) (path : String) : Option FileNode :=
  (tree.locate? path).bind tree.nodeAt?

/-- Content of a file. -/
def content? (tree : FileTree) (path : String) : Option ByteArray :=
  match tree.node? path with
  | some (.file content) => some content
  | _ => none

/-- What reading a path as text gives. -/
def look (tree : FileTree) (path : String) : FileState :=
  match tree.node? path with
  | none => .absent
  | some .directory => .unreadable
  | some (.file content) =>
    match String.fromUTF8? content with
    | some s => .text s
    | none => .unreadable

/-! ## Writing -/

/-- Puts a node in place of the one at a list of names. -/
def put (tree : FileTree) (names : List String) (node : FileNode) : FileTree :=
  { tree with nodes := (names, node) :: tree.nodes.filter fun entry => entry.1 ≠ names }

/-- Follows names from a position and creates each missing directory; nothing when a file stands in
the way. -/
def makeDirectories? (tree : FileTree) (position : List String) :
    List String → Option FileTree
  | [] => some tree
  | name :: rest =>
    match move? position name with
    | none => none
    | some next =>
      match tree.nodeAt? next with
      | some .directory => tree.makeDirectories? next rest
      | some (.file _) => none
      | none => (tree.put next .directory).makeDirectories? next rest

/-- Creates the directory at a path and those above it. -/
def createDirectories? (tree : FileTree) (path : String) : Option FileTree :=
  (segments? path).bind (tree.makeDirectories? (tree.start path))

/-- Writes a file; its directory must exist and it must not be a directory itself. -/
def write? (tree : FileTree) (path : String) (content : ByteArray) : Option FileTree :=
  match tree.locate? path with
  | none => none
  | some names => if tree.isDirectory names then none else some (tree.put names (.file content))

/-- Adds a node and the directories above it. -/
def add (tree : FileTree) (path : String) (node : FileNode) : FileTree :=
  match segments? path with
  | none => tree
  | some names =>
    let tree := (tree.makeDirectories? (tree.start path) names.dropLast).getD tree
    match tree.walk? (tree.start path) names with
    | some position => tree.put position node
    | none => tree

end FileTree

end MessageBroker
