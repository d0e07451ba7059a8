import MacroBody.Text.Basic

/-!
# Files

What a path leads to in a working directory that holds the given files. A path is a sequence of names
between slashes; empty names and single dots do not count, and two dots lead back. Everything before
the last name has to be a directory.
-/

namespace MacroBody

/-- What a path leads to. -/
inductive Lookup
  | file (content : Text)
  | directory
  | missing
  | notDirectory
  | denied
  | notText
  deriving DecidableEq, Repr

namespace Lookup

/-- The content, if the path leads to a file. -/
def content? : Lookup → Option Text
  | file content => some content
  | _ => none

/-- Why no text could be read. -/
def reason : Lookup → Text
  | directory => "Is a directory (os error 21)".toList
  | notDirectory => "Not a directory (os error 20)".toList
  | denied => "Permission denied (os error 13)".toList
  | notText => "stream did not contain valid UTF-8".toList
  | _ => "No such file or directory (os error 2)".toList

end Lookup

/-- The names of a path that count. -/
def pathNames (path : Text) : List Text :=
  (path.splitOn '/').filter fun name => !name.isEmpty && name ≠ ['.']

/-- The path without what does not count. -/
def tidyPath (path : Text) : Text :=
  Text.join ['/'] (pathNames path)

/-- Files by their paths. -/
structure Files where
  entries : List (List Text × Text)

namespace Files

/-- Files given by name and content. -/
def ofList (files : List (Text × Text)) : Files :=
  ⟨files.map fun (name, content) => (pathNames name, content)⟩

/-- What stands at a place. -/
def at? (f : Files) (place : List Text) : Lookup :=
  match f.entries.lookup place with
  | some content => .file content
  | none =>
    if place.isEmpty || f.entries.any fun (names, _) => place.isPrefixOf names then .directory
    else .missing

/-- Follows names from a place. -/
def follow (f : Files) (place : List Text) : List Text → Lookup
  | [] => f.at? place
  | name :: rest =>
    match f.at? place with
    | .directory =>
      if name = ['.', '.'] then
        if place.isEmpty then .missing else f.follow place.dropLast rest
      else f.follow (place ++ [name]) rest
    | .file _ => .notDirectory
    | other => other

/-- What a path leads to. A path with a slash at its end has to lead to a directory, and one that
starts with a slash leads out of the working directory. -/
def look (f : Files) (path : Text) : Lookup :=
  if path.isEmpty || path.head? = some '/' then .missing
  else
    match f.follow [] (pathNames path) with
    | .file content => if path.getLast? = some '/' then .notDirectory else .file content
    | other => other

end Files

end MacroBody
