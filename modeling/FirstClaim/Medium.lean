import FirstClaim.FileTree

/-!
# Media

Writing may break off: a disk has no more room, or nobody reads any longer what is printed. A file
that is written has been emptied by then, and holds as much as its medium took
(`FileTree.writeOn`). Some files keep nothing of what they take.
-/

set_option autoImplicit false

namespace FirstClaim

/-- How many bytes can be written and why no more, if there is a bound. -/
abbrev Room := Option (Nat × IoError)

namespace Room

/-- The part of a content that there is room for. -/
def taken (r : Room) (content : ByteArray) : ByteArray :=
  r.elim content fun (bound, _) => content.extract 0 bound

def result (r : Room) (content : ByteArray) : Except IoError Unit :=
  match r with
  | some (bound, e) => if bound < content.size then .error e else .ok ()
  | none => .ok ()

end Room

/-- What a file is written on. -/
structure Medium where
  room : Room := none
  /-- Whether what is written can be read again. -/
  keeps : Bool := true

def Medium.kept (m : Medium) (content : ByteArray) : ByteArray :=
  if m.keeps then m.room.taken content else .empty

/-- The media of the files at all places, and the room for what is printed. -/
structure Media where
  file : Location → Medium
  output : Room

/-- Everything can be written, and `/dev/null` keeps nothing. -/
def Media.usual : Media where
  file place := { keeps := place ≠ ["dev", "null"] }
  output := none

/-- Makes a file, or gives one new content. When writing breaks off, a part has been written. -/
def FileTree.writeOn (t : FileTree) (media : Media) (path : String) (content : ByteArray) :
    FileTree × Except IoError Unit :=
  match t.resolve path with
  | .error e => (t, .error e)
  | .ok place =>
    match t.write path ((media.file place).kept content) with
    | .error e => (t, .error e)
    | .ok written => (written, (media.file place).room.result content)

end FirstClaim
