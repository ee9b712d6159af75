import TagGrammar.Path
import TagGrammar.Text.Line
import TagGrammar.Text.Quoted
import TagGrammar.Text.Utf8

/-!
# File trees

A file tree holds files and directories at their places, which are given by the names of the steps
from the root. Relative paths start in the working directory. Reading and writing fail where a
step is missing, leads through a file, ends at a directory, or has a name that no file can have.

The working directory may have been removed. Then it has no path, and nothing is found in it, but
steps upwards from it still lead to the places above.
-/

namespace TagGrammar

/-! ## Errors -/

inductive FileFault where
  | notFound
  | notDirectory
  | isDirectory
  | nameTooLong
  | nullCharacter
  deriving DecidableEq

def FileFault.message : FileFault → String
  | notFound => "[Errno 2] No such file or directory"
  | notDirectory => "[Errno 20] Not a directory"
  | isDirectory => "[Errno 21] Is a directory"
  | nameTooLong => "[Errno 36] File name too long"
  | nullCharacter => "embedded null byte"

/-- A fault and the path that was to be accessed. -/
structure FileError where
  fault : FileFault
  path : Path

/-- The wording of an error. A path with a null character is not repeated. -/
def FileError.message (error : FileError) : String :=
  match error.fault with
  | .nullCharacter => error.fault.message
  | fault => s!"{fault.message}: {Text.quote error.path.toString}"

inductive ReadError where
  | file (error : FileError)
  | encoding (fault : Text.Utf8.Fault)

def ReadError.message : ReadError → String
  | file error => error.message
  | encoding fault => fault.message

/-! ## Trees -/

/-- What stands at a place. -/
inductive FileNode where
  | file (bytes : ByteArray)
  | directory

/-- A place: the names of the steps from the root. -/
abbrev Place := List String

/-- Files and directories at their places, and the working directory. The root is a directory. -/
structure FileTree where
  working : Place
  nodes : List (Place × FileNode)

namespace FileTree

def node? (tree : FileTree) (place : Place) : Option FileNode :=
  if place = [] then some .directory else tree.nodes.lookup place

def set (tree : FileTree) (place : Place) (node : FileNode) : FileTree :=
  if tree.nodes.any fun entry => entry.1 = place then
    { tree with
      nodes := tree.nodes.map fun entry => if entry.1 = place then (place, node) else entry }
  else { tree with nodes := tree.nodes ++ [(place, node)] }

def clear (tree : FileTree) (place : Place) : FileTree :=
  { tree with nodes := tree.nodes.filter fun entry => entry.1 ≠ place }

/-- The path of the working directory, unless that has been removed. -/
def currentPath? (tree : FileTree) : Option Path :=
  match tree.node? tree.working with
  | some .directory => some ⟨.root, tree.working⟩
  | _ => none

/-! ## Access by paths -/

def maxNameLength : Nat := 255

def maxPathLength : Nat := 4095

/-- The place that steps lead to. Every step has to start from a directory. -/
def walk (tree : FileTree) (place : Place) : List String → Except FileFault Place
  | [] => .ok place
  | step :: rest =>
    match tree.node? place with
    | none => .error .notFound
    | some (.file _) => .error .notDirectory
    | some .directory =>
      if maxNameLength < step.utf8ByteSize then .error .nameTooLong
      else tree.walk (if step = ".." then place.dropLast else place ++ [step]) rest

/-- The place that steps lead to from the working directory or one above it. -/
def walkUp (tree : FileTree) (place : Place) : List String → Except FileFault Place
  | [] => .ok place
  | step :: rest =>
    if step = ".." then tree.walkUp place.dropLast rest else tree.walk place (step :: rest)

/-- The place that a path leads to. Nothing needs to stand there. -/
def locate (tree : FileTree) (path : Path) : Except FileFault Place :=
  if path.hasNull then .error .nullCharacter
  else if maxPathLength < path.toString.utf8ByteSize then .error .nameTooLong
  else if path.isAbsolute then tree.walk [] path.steps
  else tree.walkUp tree.working path.steps

/-- What stands at the place that a path leads to. The working directory and those above it are
directories even if they have been removed. -/
def reached? (tree : FileTree) (path : Path) (place : Place) : Option FileNode :=
  if path.isUpward then some .directory else tree.node? place

/-- What stands at the end of a path, if anything does. Only a name that is too long is an
error. -/
def find? (tree : FileTree) (path : Path) : Except FileError (Option FileNode) :=
  match tree.locate path with
  | .ok place => .ok (tree.reached? path place)
  | .error .nameTooLong => .error ⟨.nameTooLong, path⟩
  | .error _ => .ok none

def read (tree : FileTree) (path : Path) : Except FileError ByteArray :=
  match tree.locate path with
  | .error fault => .error ⟨fault, path⟩
  | .ok place =>
    match tree.reached? path place with
    | none => .error ⟨.notFound, path⟩
    | some .directory => .error ⟨.isDirectory, path⟩
    | some (.file bytes) => .ok bytes

/-- Writes a file, in the place of an earlier one if there is one. -/
def write (tree : FileTree) (path : Path) (bytes : ByteArray) : Except FileError FileTree :=
  match tree.locate path with
  | .error fault => .error ⟨fault, path⟩
  | .ok place =>
    match tree.reached? path place with
    | some .directory => .error ⟨.isDirectory, path⟩
    | _ => .ok (tree.set place (.file bytes))

/-- Takes a file away, if there is one. -/
def remove (tree : FileTree) (path : Path) : Except FileError FileTree :=
  match tree.locate path with
  | .error .notFound => .ok tree
  | .error fault => .error ⟨fault, path⟩
  | .ok place =>
    match tree.reached? path place with
    | none => .ok tree
    | some .directory => .error ⟨.isDirectory, path⟩
    | some (.file _) => .ok (tree.clear place)

/-- The text that the content of a file stands for: decoded, with unified line breaks. -/
def decodeText (bytes : ByteArray) : Except Text.Utf8.Fault String :=
  (Text.Utf8.decode bytes).map fun text => String.ofList (Text.unifyBreaks text.toList)

def readText (tree : FileTree) (path : Path) : Except ReadError String :=
  match tree.read path with
  | .error error => .error (.file error)
  | .ok bytes => (decodeText bytes).mapError .encoding

/-- Writes the text of a file as it is. -/
def writeText (tree : FileTree) (path : Path) (text : String) : Except FileError FileTree :=
  tree.write path text.toUTF8

/-! ## Contents of directories -/

/-- The steps from a place to all that stands below it. -/
def below (tree : FileTree) (place : Place) : List (List String) :=
  tree.nodes.filterMap fun entry =>
    if place.isPrefixOf entry.1 && place.length < entry.1.length then
      some (entry.1.drop place.length)
    else none

/-- Puts a node at the end of some steps from a place, and directories on the way to it where
nothing stands. -/
def plantFrom (tree : FileTree) (place : Place) (node : FileNode) : List String → FileTree
  | [] => tree.set place node
  | step :: rest =>
    let grown := if (tree.node? place).isSome then tree else tree.set place .directory
    grown.plantFrom (if step = ".." then place.dropLast else place ++ [step]) node rest

/-- Puts a node at the end of some steps from the working directory. -/
def plant (tree : FileTree) (steps : List String) (node : FileNode) : FileTree :=
  tree.plantFrom tree.working node steps

/-- A tree that holds nothing but the working directory and the directories above it. -/
def bare (working : Place) : FileTree :=
  ⟨working, (List.range working.length).map fun n => (working.take (n + 1), .directory)⟩

end FileTree

end TagGrammar
