import FirstClaim.CommandLine.Outcome
import FirstClaim.Timestamp.Clock
import Std.Time.DateTime.Timestamp

/-!
# The program

The program looks at the files that a run may touch, lets `Invocation.outcome` say what becomes of
them, and does so.
-/

set_option autoImplicit false

namespace FirstClaim.CommandLine

/-- The paths of the files that a run may touch. -/
def Arguments.paths (a : Arguments) (home : String) : List String :=
  let store := (DataDirectory.choose home a.store).store
  a.input.toList ++ a.output.toList ++ a.rules.toList ++ store.directory ::
    (a.ruleSet.toList ++ a.saveAs.toList).map store.path

/-- The path from the root to a place. -/
def placePath (place : Location) : String :=
  "/" ++ String.intercalate "/" place

/-- Looks what stands at a place. -/
def look (place : Location) : IO (Option Node) := do
  try
    return some (.file (← IO.FS.readBinFile (placePath place)))
  catch
    | .inappropriateType _ 21 _ => return some .directory
    | _ => return none

/-- Looks what stands at the places on a path. -/
def lookAlong (files : FileTree) (path : String) : IO FileTree := do
  let place := (Path.names path).foldl FileTree.step (files.origin path)
  let mut files := files
  for n in List.range place.length do
    let place := place.take (n + 1)
    if let some node ← look place then files := files.put place node
  return files

partial def readAll (stream : IO.FS.Stream) (before : ByteArray) : IO ByteArray := do
  let bytes ← stream.read 65536
  if bytes.isEmpty then return before else readAll stream (before ++ bytes)

/-- Makes files and directories what they have become. -/
def carryOut (before after : FileTree) : IO Unit := do
  for (place, node) in (before.changes after).reverse do
    match node with
    | .directory => IO.FS.createDirAll (placePath place)
    | .file content => IO.FS.writeBinFile (placePath place) content

def readClock : IO Timestamp := do
  let reading ← Std.Time.Timestamp.now
  return (Timestamp.ofNanoseconds? reading.toNanosecondsSinceUnixEpoch.val).getD
    StoredRuleSet.epoch

def runProgram (arguments : List String) : IO UInt32 := do
  let home := (← IO.getEnv "HOME").getD "/"
  let start : FileTree := { current := Path.names (toString (← IO.currentDir)) }
  let known := match Arguments.read arguments with
    | .ok a => a.paths home
    | .error _ => []
  let files ← known.foldlM lookAlong (← lookAlong start ".")
  let wanted := match Arguments.read arguments with
    | .ok a => a.input.isNone && !a.showRules
    | .error _ => false
  let input ← if wanted then readAll (← IO.getStdin) .empty else pure .empty
  let now ← readClock
  let began ← IO.monoNanosNow
  let o := Invocation.outcome { arguments, input, home, files, now }
  carryOut files o.files
  let ended ← IO.monoNanosNow
  (← IO.getStderr).putStr (o.errorText ((ended - began) / 1000))
  (← IO.getStdout).write o.output
  return o.exitCode

end FirstClaim.CommandLine

/-- Applies an ordered list of rules to a text. -/
def main (arguments : List String) : IO UInt32 :=
  FirstClaim.CommandLine.runProgram arguments
