/-!
# Paths

A path is a text with slashes between names. Empty names and the name `.` say nothing, and the name
`..` leads one directory up. The last name that says something may have an extension, behind its
last dot (`Path.extension?`).
-/

set_option autoImplicit false

namespace FirstClaim.Path

/-- The pieces of a text between slashes. -/
def pieces : List Char → List (List Char)
  | [] => [[]]
  | c :: cs =>
    if c = '/' then [] :: pieces cs
    else
      match pieces cs with
      | [] => [[c]]
      | piece :: rest => (c :: piece) :: rest

def names (path : String) : List String :=
  ((pieces path.toList).filter (· ≠ [])).map String.ofList

def isAbsolute (path : String) : Bool :=
  path.toList.head? == some '/'

/-- Whether a path can only lead to a directory. -/
def endsInSlash (path : String) : Bool :=
  path.toList.getLast? == some '/'

/-- The path that goes on from a directory, unless it begins at the root itself. -/
def join (directory path : String) : String :=
  if isAbsolute path then path
  else if directory.isEmpty || endsInSlash directory then directory ++ path
  else directory ++ "/" ++ path

/-- A name before and behind its last dot. A dot in front does not count. -/
def splitName (name : List Char) : List Char × Option (List Char) :=
  let behind := name.reverse.takeWhile (· ≠ '.')
  let before := name.reverse.drop (behind.length + 1)
  if before = [] then (name, none) else (before.reverse, some behind.reverse)

def stem (name : String) : String :=
  String.ofList (splitName name.toList).1

def nameExtension? (name : String) : Option String :=
  (splitName name.toList).2.map String.ofList

def fileName? (path : String) : Option String :=
  match ((names path).filter (· ≠ ".")).getLast? with
  | some ".." => none
  | name => name

def extension? (path : String) : Option String :=
  fileName? path >>= nameExtension?

end FirstClaim.Path
