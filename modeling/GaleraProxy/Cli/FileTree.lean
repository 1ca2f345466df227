import GaleraProxy.Cli.Ending

/-!
# Trees of files

A tree of files is a list of files with the directories that lead to them. It answers what is at a
path, and whether something can be written there, for paths that are relative to its root or that
begin with the root's own name.
-/

namespace GaleraProxy.Cli

/-- The files of a tree by the directories that lead to them, and the name of the tree's root. -/
structure FileTree where
  root : String
  files : List (List String × List UInt8)
  deriving DecidableEq, Repr

namespace FileTree

/-- What is said where no directory leads to a path. -/
def missingMessage : String := "No such file or directory (os error 2)"

/-- Follow one component of a path. -/
def follow (place : List String) (part : String) : Option (List String) :=
  if part != ".." then some (place ++ [part])
  else if place.isEmpty then none
  else some place.dropLast

/-- The place of a path in the tree, if it leads into the tree. -/
def place? (t : FileTree) (path : String) : Option (List String) :=
  let inside? :=
    if path.startsWith t.root then some (path.drop t.root.length).toString
    else if path.startsWith "/" then none
    else some path
  inside?.bind fun inside => (pathComponents inside).foldlM follow []

/-- Whether a path can only be that of a directory. -/
def namesDirectory (path : String) : Bool := path.endsWith "/" || path.endsWith "/."

/-- Whether there is a directory at a place. -/
def hasDirectory (t : FileTree) (place : List String) : Bool :=
  place.isEmpty || t.files.any fun f => place.isPrefixOf f.1 && place != f.1

/-- What is at a path. Outside of the tree there is nothing but the directories above it. -/
def state (t : FileTree) (path : String) : FileState :=
  match t.place? path with
  | none => if path == "/" || path == ".." then .directory else .missing
  | some place =>
      match t.files.lookup place with
      | some content => if namesDirectory path then .beyondFile else .file content
      | none =>
          if t.hasDirectory place then .directory
          else if t.files.any fun f => f.1.isPrefixOf place then .beyondFile
          else .missing

/-- Why nothing can be written at a path. -/
def refusal (t : FileTree) (path : String) : Option String :=
  match t.state path with
  | .file _ | .unreadable _ => none
  | .directory => some directoryMessage
  | .beyondFile => some beyondFileMessage
  | .missing =>
      if namesDirectory path then some directoryMessage
      else if (t.place? path).any fun place => t.hasDirectory place.dropLast then none
      else some missingMessage

/-- The tree as the commands see it. -/
def view (t : FileTree) : Files := ⟨t.state, t.refusal⟩

end FileTree

end GaleraProxy.Cli
