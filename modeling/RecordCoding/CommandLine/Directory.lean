import RecordCoding.Configuration.Settings

/-!
# Directories

A directory with files below it, held in memory, and what is found in it under a path. A path that
leads out of the directory leads to nothing.
-/

namespace RecordCoding.CommandLine

/-- The names on a path, given the beginning of the first in reverse. -/
def pathNames (begun : List Char) : List Char → List (List Char)
  | [] => [begun.reverse]
  | c :: rest =>
    if c = '/' then begun.reverse :: pathNames [] rest else pathNames (c :: begun) rest

/-- A file with the names on the path to it. -/
structure StoredFile where
  path : List (List Char)
  content : String
  deriving Repr, DecidableEq

/-- A directory. -/
structure Directory where
  files : List StoredFile
  deriving Repr, DecidableEq

namespace Directory

/-- The directory of certain files, each with its path. -/
def ofFiles (files : List (String × String)) : Directory :=
  ⟨files.map fun (path, content) => ⟨pathNames [] path.toList, content⟩⟩

/-- Whether there is a directory under a path. -/
def hasDirectory (directory : Directory) (path : List (List Char)) : Bool :=
  path.isEmpty || directory.files.any fun file => path.isPrefixOf file.path && file.path != path

/-- Goes along the names of a path, where only directories lead on. -/
def resolve (directory : Directory) (here : List (List Char)) :
    List (List Char) → Option (List (List Char))
  | [] => some here
  | name :: rest =>
    if !directory.hasDirectory here then none
    else if name = [] ∨ name = ['.'] then directory.resolve here rest
    else if name = ['.', '.'] then
      if here.isEmpty then none else directory.resolve here.dropLast rest
    else directory.resolve (here ++ [name]) rest

/-- What is found under a path. -/
def look (directory : Directory) (path : String) : FileEntry :=
  match path.toList with
  | [] | '/' :: _ => .missing
  | chars =>
    match directory.resolve [] (pathNames [] chars) with
    | none => .missing
    | some resolved =>
      match directory.files.find? (·.path == resolved) with
      | some file => .file file.content
      | none => if directory.hasDirectory resolved then .directory else .missing

end Directory

end RecordCoding.CommandLine
