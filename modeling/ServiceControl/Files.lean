/-!
# Files

A tree of files under a working directory, and what reading one of them by its path gives.  Nothing is known of what lies
outside the working directory but that those are directories.
-/
namespace ServiceControl

inductive FileFault
  | notFound
  | isADirectory
  | notADirectory
  | invalidData
  | invalidInput
  | invalidFilename
  deriving DecidableEq, Repr, Inhabited

inductive FileContent
  | directory
  | text (s : String)
  | bytes (content : ByteArray)

/-- What reading the file at a path gives. -/
abbrev FileReader := String → Except FileFault String

def FileContent.text? : FileContent → Except FileFault String
  | directory => .error .isADirectory
  | text s => .ok s
  | bytes content => match String.fromUTF8? content with
    | some s => .ok s
    | none => .error .invalidData

/-- The files by their paths from the working directory. -/
abbrev Files := List (String × FileContent)

namespace Files

/-- The most bytes of one name, and of a whole path. -/
def longestName : Nat := 255
def longestPath : Nat := 4095

/-- Where a walk along a path has come to: to a place under the working directory, or outside it. -/
inductive Place
  | inside (names : List String)
  | outside
  deriving DecidableEq, Repr, Inhabited

def pathOf (names : List String) : String := "/".intercalate names

/-- What lies at a place; the directories on the way to a file need no entry of their own. -/
def at? (files : Files) : Place → Option FileContent
  | .outside => some .directory
  | .inside [] => some .directory
  | .inside names =>
    match files.lookup (pathOf names) with
    | some content => some content
    | none => if files.any fun f => (pathOf names ++ "/").isPrefixOf f.1 then some .directory else none

/-- Goes on by one name from a directory. -/
def enter (files : Files) (place : Place) (name : String) : Except FileFault Place :=
  match files.at? place with
  | some .directory =>
    if name = "." then .ok place
    else if name = ".." then
      match place with
      | .inside (n :: names) => .ok (.inside (n :: names).dropLast)
      | _ => .ok .outside
    else if longestName < name.utf8ByteSize then .error .invalidFilename
    else
      match place with
      | .outside => .error .notFound
      | .inside names =>
        if (files.at? (.inside (names ++ [name]))).isSome then .ok (.inside (names ++ [name])) else .error .notFound
  | some _ => .error .notADirectory
  | none => .error .notFound

/-- The names in a path; one that ends in a slash means a directory. -/
def namesOf (path : String) : List String :=
  let names := (path.splitOn "/").filter (· ≠ "")
  if path.endsWith "/" then names ++ ["."] else names

/-- Reads the file at a path as a text. -/
def read (files : Files) : FileReader := fun path => do
  if path.contains '\x00' then throw .invalidInput
  if longestPath < path.utf8ByteSize then throw .invalidFilename
  if path.isEmpty then throw .notFound
  let start := if path.startsWith "/" then .outside else .inside []
  let place ← (namesOf path).foldlM files.enter start
  match files.at? place with
  | some content => content.text?
  | none => throw .notFound

end Files

end ServiceControl
