import FirstClaim.Path

/-!
# Trees of files

A `FileTree` says which files and directories there are and what the files hold. Its operations are
those of a file system without links and permissions: a path is followed name by name (`resolve`),
and an operation that fails leaves the tree as it is.
-/

set_option autoImplicit false

namespace FirstClaim

/-- Why an operation on files fails. -/
inductive IoError where
  | notFound
  | alreadyExists
  | notDirectory
  | isDirectory
  | nameTooLong
  | nulInName
  | invalidText
  | noSpace
  | brokenPipe
deriving DecidableEq, Repr

def IoError.message : IoError → String
  | notFound => "No such file or directory (os error 2)"
  | alreadyExists => "File exists (os error 17)"
  | notDirectory => "Not a directory (os error 20)"
  | isDirectory => "Is a directory (os error 21)"
  | nameTooLong => "File name too long (os error 36)"
  | nulInName => "file name contained an unexpected NUL byte"
  | invalidText => "stream did not contain valid UTF-8"
  | noSpace => "No space left on device (os error 28)"
  | brokenPipe => "Broken pipe (os error 32)"

/-- Bytes as a text. -/
def decodeText (bytes : ByteArray) : Except IoError String :=
  match String.fromUTF8? bytes with
  | some text => .ok text
  | none => .error .invalidText

/-- The names that lead from the root to a place. -/
abbrev Location := List String

/-- What stands at a place. -/
inductive Node where
  | file (content : ByteArray)
  | directory

/-- Files are the same when their bytes are. -/
instance : DecidableEq Node
  | .file a, .file b =>
    match ByteArray.instDecidableEq a b with
    | .isTrue h => .isTrue (congrArg Node.file h)
    | .isFalse h => .isFalse fun e => h (Node.file.inj e)
  | .directory, .directory => .isTrue rfl
  | .file _, .directory | .directory, .file _ => .isFalse nofun

/-- Files and directories with their places, and the place where relative paths begin. -/
structure FileTree where
  current : Location := []
  entries : List (Location × Node) := []

namespace FileTree

/-- What stands at a place. The root is always there. -/
def node? (t : FileTree) (place : Location) : Option Node :=
  if place = [] then some .directory else t.entries.lookup place

def put (t : FileTree) (place : Location) (node : Node) : FileTree :=
  { t with entries := (place, node) :: t.entries.filter (·.1 ≠ place) }

def erase (t : FileTree) (place : Location) : FileTree :=
  { t with entries := t.entries.filter (·.1 ≠ place) }

/-- Takes away a place and all places below it. -/
def prune (t : FileTree) (place : Location) : FileTree :=
  { t with entries := t.entries.filter fun e => !place.isPrefixOf e.1 }

/-! ## Following paths -/

def longestName : Nat :=
  255

def longestPath : Nat :=
  4095

/-- The place that a name leads to from a directory. -/
def step (place : Location) (name : String) : Location :=
  -- above the root stands the root itself
  if name = "." then place else if name = ".." then place.dropLast else place ++ [name]

/-- The place that names lead to. All places on the way must be directories; nothing need be at
the last one. -/
def walk (t : FileTree) (place : Location) : List String → Except IoError Location
  | [] => .ok place
  | name :: rest =>
    match t.node? place with
    | none => .error .notFound
    | some (.file _) => .error .notDirectory
    | some .directory =>
      if longestName < name.utf8ByteSize then .error .nameTooLong
      else walk t (step place name) rest

/-- The place where a path begins. -/
def origin (t : FileTree) (path : String) : Location :=
  if Path.isAbsolute path then [] else t.current

/-- The place that a path leads to. -/
def resolve (t : FileTree) (path : String) : Except IoError Location :=
  if path.toList.contains '\x00' then .error .nulInName
  else if path.isEmpty then .error .notFound
  else if longestPath < path.utf8ByteSize then .error .nameTooLong
  else t.walk (t.origin path) (Path.names path)

/-- What a path leads to. -/
def find (t : FileTree) (path : String) : Except IoError Node := do
  let place ← t.resolve path
  match t.node? place with
  | none => .error .notFound
  | some (.file content) =>
    if Path.endsInSlash path then .error .notDirectory else .ok (.file content)
  | some .directory => .ok .directory

/-! ## Operations -/

def contains (t : FileTree) (path : String) : Bool :=
  (t.find path).toBool

def read (t : FileTree) (path : String) : Except IoError ByteArray := do
  match ← t.find path with
  | .file content => .ok content
  | .directory => .error .isDirectory

def readText (t : FileTree) (path : String) : Except IoError String := do
  decodeText (← t.read path)

/-- Makes a file, or gives one new content. -/
def write (t : FileTree) (path : String) (content : ByteArray) : Except IoError FileTree := do
  let place ← t.resolve path
  if Path.endsInSlash path || t.node? place = some .directory then .error .isDirectory
  else .ok (t.put place (.file content))

def removeFile (t : FileTree) (path : String) : Except IoError FileTree := do
  let place ← t.resolve path
  match ← t.find path with
  | .file _ => .ok (t.erase place)
  | .directory => .error .isDirectory

def namesIn (t : FileTree) (path : String) : Except IoError (List String) := do
  let place ← t.resolve path
  match ← t.find path with
  | .file _ => .error .notDirectory
  | .directory =>
    .ok (t.entries.filterMap fun e =>
      -- the root has no last name, so it is not in itself
      if e.1.dropLast = place then e.1.getLast? else none)

/-- Makes a directory; `names` leads to it from `start`, the last name first. -/
def makeOne (t : FileTree) (start : Location) (names : List String) : Except IoError FileTree :=
  match names with
  | [] => .error .alreadyExists
  | name :: parents => do
    let place ← t.walk start (name :: parents).reverse
    if (t.node? place).isSome then .error .alreadyExists else .ok (t.put place .directory)

/-- Makes a directory unless it is there. -/
def ensureOne (t : FileTree) (start : Location) (names : List String) : Except IoError FileTree :=
  match t.makeOne start names with
  | .error .alreadyExists =>
    -- what is there may also be a file
    if (t.walk start names.reverse).toOption.bind t.node? = some .directory then .ok t
    else .error .alreadyExists
  | made => made

/-- Makes a directory and those above it, as far as they are not there; `names` leads to it from
`start`, the last name first. -/
def ensureAll (t : FileTree) (start : Location) : List String → Except IoError FileTree
  | [] => .ok t
  | name :: parents =>
    match t.ensureOne start (name :: parents) with
    -- a directory on the way is lacking; nothing else is put right
    | .error .notFound => do
      let t ← t.ensureAll start parents
      t.ensureOne start (name :: parents)
    | made => made

/-- Makes a directory and those above it, as far as they are not there. -/
def makeDirectories (t : FileTree) (path : String) : Except IoError FileTree :=
  if path.isEmpty then .ok t
  else if path.toList.contains '\x00' then .error .nulInName
  else if longestPath < path.utf8ByteSize then .error .nameTooLong
  else t.ensureAll (t.origin path) (Path.names path).reverse

/-! ## Whole trees -/

/-- Puts a file in its place together with the directories above it. A path that ends in a slash
stands for a directory. -/
def plant (t : FileTree) (path : String) (content : ByteArray) : FileTree :=
  let place := (Path.names path).foldl step (t.origin path)
  let above := (List.range place.length).tail.foldl (fun t n => t.put (place.take n) .directory) t
  above.put place (if Path.endsInSlash path then .directory else .file content)

/-- What stands in a tree that another one does not have or that is different there. -/
def changes (before after : FileTree) : List (Location × Node) :=
  after.entries.filter fun e => before.node? e.1 ≠ some e.2

end FileTree

end FirstClaim
