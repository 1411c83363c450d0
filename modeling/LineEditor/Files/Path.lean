import LineEditor.Files.Tree

/-! How a path leads through a tree of files: part by part, by way of links, or from the root down
to a place by the names of all directories above it.
-/

namespace LineEditor.FileTree

----------------------------------------------------------------------------------------
-- Texts of paths
----------------------------------------------------------------------------------------

/-- The parts of a path between its slashes. -/
def segments (path : String) : List String :=
  (path.toList.splitOn '/').map String.ofList

/-- The most bytes that one name may have. -/
def nameLimit : Nat := 255

/-- The most bytes that a path may have. -/
def pathLimit : Nat := 4095

/-- The name holds the character with code zero, which no path can. -/
def hasNul (path : String) : Bool := path.toList.contains '\x00'

/-- Drops parts at the end that lead nowhere, but never the first one. -/
def dropIdle (parts : List String) : List String :=
  match parts with
  | [] => []
  | first :: rest =>
      first :: (rest.reverse.dropWhile fun part => part = "" || part = ".").reverse

/-- The path of the directory that a path's last name stands in. -/
def parentPath (path : String) : String :=
  match (dropIdle (segments path)).dropLast with
  | [] => "."
  | parts =>
      match dropIdle parts with
      | [""] => "/"
      | parts => String.intercalate "/" parts

/-- The path that names all directories from the root down to a place. -/
def placePath (place : Place) : String := "/" ++ String.intercalate "/" place

/-- A path that starts in a directory. An absolute one does not need it. -/
def joinPaths (directory path : String) : String :=
  if path.startsWith "/" then path
  else if directory.endsWith "/" then directory ++ path
  else directory ++ "/" ++ path

----------------------------------------------------------------------------------------
-- Ways through the tree
----------------------------------------------------------------------------------------

/-- Goes from a directory to what stands there under a name. What a link stands for is followed by
way of `jump`, from the directory that the link is in.
-/
def enter (tree : FileTree) (jump : Place → String → Except FileFault Place) (place : Place)
    (name : String) : Except FileFault Place :=
  match tree.at? (place ++ [name]) with
  | none => .error .notFound
  | some (.link target) => jump place target
  | some _ => .ok (place ++ [name])

/-- Follows one part of a path from a directory. An empty part stays; a dot stays, two dots go up,
and a name goes down, for which the directory has to be searched.
-/
def descend (tree : FileTree) (jump : Place → String → Except FileFault Place) (place : Place)
    (part : String) : Except FileFault Place :=
  match tree.at? place with
  | none => .error .notFound
  | some (.file ..) | some (.link _) => .error .notDirectory
  | some (.directory rights) =>
      if part = "" then .ok place
      else if !tree.may .search rights then .error .denied
      else if part = "." then .ok place
      else if part = ".." then .ok place.dropLast
      else if part.utf8ByteSize > nameLimit then .error .nameTooLong
      else tree.enter jump place part

/-- A file or a directory stands at a place. -/
def isThere (tree : FileTree) (place : Place) : Bool :=
  match tree.at? place with
  | some (.file ..) | some (.directory _) => true
  | some (.link _) | none => false

/-- Follows the parts of a path in order, to what stands at their end. -/
def followParts (tree : FileTree) (jump : Place → String → Except FileFault Place)
    (place : Place) : List String → Except FileFault Place
  | [] => if tree.isThere place then .ok place else .error .notFound
  | part :: parts => do
      let next ← tree.descend jump place part
      tree.followParts jump next parts

/-- Where a path starts, and its parts: an absolute path starts at the root, a relative one at a
place that is given.
-/
def origin (place : Place) (path : String) : Place × List String :=
  match segments path with
  | "" :: rest => ([], rest)
  | parts => (place, parts)

/-- How deep links may lead into one another before the system takes them for a circle. -/
def linkLimit : Nat := 40

/-- Follows the path that is the text of a link, from the directory that the link is in. Links that it
passes may lead into one another so deep.
-/
def jump (tree : FileTree) : Nat → Place → String → Except FileFault Place
  | 0, _, _ => .error .tooManyLinks
  | depth + 1, place, target =>
      if target.isEmpty then .error .notFound
      else
        let (start, parts) := origin place target
        tree.followParts (tree.jump depth) start parts

/-- Follows the parts of a path from a place, by way of links. -/
def follow (tree : FileTree) (place : Place) (parts : List String) : Except FileFault Place :=
  tree.followParts (tree.jump linkLimit) place parts

/-- A path that can be followed: it holds no character with code zero, and is neither empty nor too
long.
-/
def requirePath (path : String) : Except FileFault Unit :=
  if hasNul path then .error .nulInName
  else if path.isEmpty then .error .notFound
  else if path.utf8ByteSize > pathLimit then .error .nameTooLong
  else .ok ()

/-- The place that a path leads to. -/
def locate (tree : FileTree) (path : String) : Except FileFault Place := do
  requirePath path
  let (start, parts) := origin tree.working path
  tree.follow start parts

/-- Goes down from a place by names, which takes the right to search every directory on the way. -/
def reachBelow (tree : FileTree) (place : Place) : List String → Except FileFault Unit
  | [] => .ok ()
  | name :: names => do
      tree.requireRight .search place
      tree.reachBelow (place ++ [name]) names

/-- Goes down to a place from the root. -/
def reach (tree : FileTree) (place : Place) : Except FileFault Unit := tree.reachBelow [] place

end LineEditor.FileTree
