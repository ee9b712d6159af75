/-!
# Paths

A path is kept in normal form: where it starts and the names of the steps from there. Empty steps
and steps to the same place (`.`) are dropped, steps upwards (`..`) are kept. Exactly two slashes
at the front are a start of their own; any other number of them is the root.
-/

namespace TagGrammar

/-- Where a path starts. -/
inductive Anchor where
  | here
  | root
  | doubleRoot
  deriving DecidableEq

/-- A path in normal form. -/
structure Path where
  anchor : Anchor
  steps : List String
  deriving DecidableEq

namespace Path

def anchorOf (text : List Char) : Anchor :=
  match (text.takeWhile (· == '/')).length with
  | 0 => .here
  | 2 => .doubleRoot
  | _ => .root

/-- Whether a part of a written path is a step. -/
def isStep (part : List Char) : Bool :=
  part != [] && part != ['.']

def ofString (s : String) : Path :=
  ⟨anchorOf s.toList, ((s.toList.splitOn '/').filter isStep).map String.ofList⟩

def toString (path : Path) : String :=
  let steps := "/".intercalate path.steps
  match path.anchor with
  | .here => if path.steps.isEmpty then "." else steps
  | .root => "/" ++ steps
  | .doubleRoot => "//" ++ steps

instance : ToString Path := ⟨toString⟩

/-- Whether a step of a path holds a null character. No file can have such a name. -/
def hasNull (path : Path) : Bool :=
  path.steps.any fun step => step.toList.contains '\x00'

/-- Whether a path does not depend on the place it is read in. -/
def isAbsolute (path : Path) : Bool :=
  path.anchor != .here

/-- Whether a path leads to the place it is read in or only upwards from there. -/
def isUpward (path : Path) : Bool :=
  !path.isAbsolute && path.steps.all (· == "..")

/-- A path as it is meant in a directory. -/
def within (directory path : Path) : Path :=
  if path.isAbsolute then path else ⟨directory.anchor, directory.steps ++ path.steps⟩

def append (path : Path) (steps : List String) : Path :=
  ⟨path.anchor, path.steps ++ steps⟩

theorem isAbsolute_within {directory path : Path} (h : directory.isAbsolute = true) :
    (within directory path).isAbsolute = true := by
  unfold within
  split
  · assumption
  · exact h

end Path

end TagGrammar
