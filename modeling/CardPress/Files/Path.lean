/-!
# Paths

Paths are text; names are separated by slashes and a leading slash makes a path absolute.
-/

namespace CardPress.Path

/-- Append a path. An absolute one takes the place of what was there. -/
def push (path part : String) : String :=
  match part.toList, path.toList.getLast? with
  | '/' :: _, _ => part
  | _, none => part
  | _, some '/' => path ++ part
  | _, some _ => path ++ "/" ++ part

/-- Any number of parts appended in turn. -/
def join (parts : List String) : String :=
  parts.foldl push ""

/-- The last name of a path, if that is no step up. -/
def fileName? (path : String) : Option String :=
  match ((path.splitOn "/").filter fun p => p ≠ "" ∧ p ≠ ".").getLast? with
  | some ".." | none => none
  | some name => some name

/-- What follows the last dot of the file name, unless that begins with it. -/
def extension? (path : String) : Option String := do
  let name ← fileName? path
  match (name.splitOn ".").reverse with
  | extension :: first :: rest =>
    if first = "" ∧ rest = [] then none else some extension
  | _ => none

end CardPress.Path
