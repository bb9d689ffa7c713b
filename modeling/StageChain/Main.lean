import StageChain.CommandLine.Commands
import StageChain.CommandLine.Terminal
import StageChain.Text.Uuid
import StageChain.Yaml.Document
import Std.Time.DateTime.Timestamp

/-!
# The program

Reads what lies below the current directory and the files that the command line names, carries out
the command, makes the changes to the files, and prints. Of a link only the path can be read that it
leads to in the end, so links to links are read as links to that, and a link to nothing as one to a
name that no file has.
-/

namespace StageChain.Program

open CommandLine

/-- An entry with its place. -/
abbrev Placed := List String × Entry

/-- A name that no file has. -/
def nowhere : String := "\x00"

/-- The path that a link in a directory leads to. -/
def readLink (e : IO.FS.DirEntry) : IO String := do
  try
    return (← IO.FS.realPath e.path).toString
  catch _ => return nowhere

/-- What stands at and below an entry of a directory. -/
partial def readEntry (directory : List String) (e : IO.FS.DirEntry) : IO (List Placed) := do
  let place := directory ++ [e.fileName]
  match (← e.path.symlinkMetadata).type with
  | .dir =>
    let below ← (← e.path.readDir).toList.mapM (readEntry place)
    return (place, .directory) :: below.flatten
  | .file => return [(place, .file (← IO.FS.readBinFile e.path).toList)]
  | .symlink => return [(place, .link (← readLink e))]
  | .other => return []

/-- A file that a word names, with the directories above it. -/
def readNamed (current : Path) (word : String) : IO (List Placed) := do
  try
    let content ← IO.FS.readBinFile word
    let place := (Path.resolveFrom current (.ofString word)).parts
    let above := (List.range place.length).tail.map fun n => (place.take n, Entry.directory)
    return above ++ [(place, .file content.toList)]
  catch _ => return []

/-- The text of a place. -/
def placeText (place : List String) : String := (Path.mk "/" place).text

/-- Takes away what is no longer there, the deepest places first. -/
def removeGone (before after : FileTree) : IO Unit := do
  let gone := before.entries.entries.filter fun e => !after.entries.contains e.1
  for (place, e) in gone.mergeSort fun a b => b.1.length ≤ a.1.length do
    match e with
    | .directory => IO.FS.removeDir (placeText place)
    | _ => IO.FS.removeFile (placeText place)

/-- Writes what is new or has changed, the places nearest to the root first. -/
def writeNew (before after : FileTree) : IO Unit := do
  let new := after.entries.entries.filter fun e => before.entries.get? e.1 != some e.2
  for (place, e) in new.mergeSort fun a b => a.1.length ≤ b.1.length do
    match e with
    | .directory => IO.FS.createDirAll (placeText place)
    | .file content => IO.FS.writeBinFile (placeText place) ⟨content.toArray⟩
    | .link _ => pure ()

/-- The moment now. -/
def now : IO Instant := do
  let t ← Std.Time.Timestamp.now
  let us := t.toNanosecondsSinceUnixEpoch.val / 1000
  return (Instant.ofParts 1970 1 1 0 0 0 0 (some 0)).later us

/-- The times on log records that are written at a moment. -/
def timesOf (i : Instant) : LogTimes :=
  let clock := { i with offset := none }.text
  let plain := (clock.replace "T" " ").replace "." ","
  ⟨clock ++ "Z", plain⟩

/-- The command line. -/
def run (words : List String) : IO UInt32 := do
  let current := Path.ofString (← IO.currentDir).toString
  let configName ← IO.getEnv "GRAPHSTAGE_CONFIG"
  let below ← (← (← IO.currentDir).readDir).toList.mapM (readEntry current.parts)
  let named ← (configName.toList ++ words).mapM (readNamed current)
  let before : FileTree := ⟨current.parts, .ofList (below.flatten ++ named.flatten)⟩
  let moment ← now
  let seed := (← IO.getRandomBytes 16).toList.foldl (fun n b => 256 * n + b.toNat) 0
  let surroundings : Surroundings := {
    current := current
    configName := configName
    names := fun n => Text.uuid ((seed + n) % Nat.pow 2 122)
    clock := fun _ => moment
    date := (moment.text.take 10).toString
    times := timesOf moment
    reader := Yaml.reader
    console := Terminal.console }
  let (e, after) := answer surroundings before words
  removeGone before after
  writeNew before after
  IO.print e.out
  IO.eprint e.err
  match e.fault with
  | none => pure ()
  | some f => IO.eprintln (LogRecord.faultLine f)
  return e.status.toUInt32

end StageChain.Program

/-- Carries out a command line. -/
def main (words : List String) : IO UInt32 := StageChain.Program.run words
