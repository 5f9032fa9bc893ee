import MessageBroker.Config.Codec
import MessageBroker.FileTree

/-!
# Configuration files

A configuration is looked for in the working directory, then in `config`, then in the home
directory; the first path at which anything stands is the one, readable or not. A file must be text,
fit the record and be valid.
-/

set_option autoImplicit false

namespace MessageBroker.Config

/-- Places where a configuration is looked for, in order. -/
def searchPaths (home : String) : List String :=
  [configFileName, "config/" ++ configFileName, home ++ "/." ++ configFileName]

/-- The first of the places at which anything stands. -/
def find (look : String → FileState) (home : String) : Except ConfigError String :=
  match (searchPaths home).find? fun path => look path ≠ .absent with
  | some path => .ok path
  | none => .error .notFound

/-- Reads the configuration file at a path. -/
def loadFrom (look : String → FileState) (path : String) : Except ConfigError Config :=
  match look path with
  | .text content =>
    match read? content with
    | some config => config.validate
    | none => .error .malformed
  | _ => .error (.unreadable path)

/-- Reads the configuration file that is found. -/
def load (look : String → FileState) (home : String) : Except ConfigError Config :=
  match find look home with
  | .ok path => loadFrom look path
  | .error error => .error error

/-- The configuration a new file holds. -/
def initial : Config := { queues := { declare := ["Transactions"] } }

/-- Writes a new configuration file and the directories it needs. -/
def create (tree : FileTree) (path : String) : Except ConfigError FileTree :=
  let parent := FileTree.parent path
  let prepared :=
    if parent = "" ∨ (tree.node? parent).isSome then some tree
    else tree.createDirectories? parent
  match prepared with
  | none => .error (.directoryNotCreated parent)
  | some tree =>
    match tree.write? path initial.fileText.toUTF8 with
    | some tree => .ok tree
    | none => .error (.notWritten path)

end MessageBroker.Config
