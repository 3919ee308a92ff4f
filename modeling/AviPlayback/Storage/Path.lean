/-!
Paths of files: names joined by slashes. An absolute path starts with a slash; slashes in a row
count as one.
-/
set_option autoImplicit false

namespace AviPlayback

namespace Path

def isAbsolute (path : String) : Bool := path.toList.head? == some '/'

def endsInSlash (path : String) : Bool := path.toList.getLast? == some '/'

def names (path : String) : List String :=
  ((path.toList.splitOn '/').map String.ofList).filter (· != "")

/-- A path as seen from a directory: an absolute path stays as it is. -/
def join (dir path : String) : String :=
  if isAbsolute path || dir.isEmpty then path
  else if endsInSlash dir then dir ++ path
  else dir ++ "/" ++ path

/-- The names of a path of which those for the directory itself are left out, except the first of
a relative path. -/
def normalNames (path : String) : List String :=
  match names path with
  | [] => []
  | first :: rest =>
    let rest := rest.filter (· != ".")
    if first = "." && isAbsolute path then rest else first :: rest

/-- The path of the directory above, when the path has a last name. -/
def parent? (path : String) : Option String :=
  match (normalNames path).reverse with
  | [] => none
  | _ :: above =>
    some ((if isAbsolute path then "/" else "") ++ "/".intercalate above.reverse)

end Path

end AviPlayback
