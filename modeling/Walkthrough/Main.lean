import Std.Time.Zoned
import Walkthrough.Command.Basic
import Walkthrough.Page.Reader
import Walkthrough.Plugin.Bundled

/-!
The command line. It works on the files below the working directory; the pages that the browser
opens are those of the document `pages.json`, and empty ones behind them.
-/
namespace Walkthrough.CommandLine

/-- The names of a file's path from the root. -/
def keyOf (path : String) : List String := (Path.ofString path).parts

/-- The text of bytes, or the bytes themselves where they are none. -/
def contentOf (bytes : List Nat) : Content :=
  match Text.Utf8.decode bytes with
  | .ok s => .text s
  | .error _ => .bytes bytes

def bytesOf (content : Content) : ByteArray :=
  ⟨(content.toBytes.map Nat.toUInt8).toArray⟩

/-- The variables in a block of them, each of which ends with a null character. -/
def variablesOf (block : List Nat) : List (String × String) :=
  match Text.Utf8.decode block with
  | .error _ => []
  | .ok s =>
    (Text.splitBy (· == '\x00') s.toList).filterMap fun cs =>
      (Text.cutAt? ['='] cs).map fun v => (String.ofList v.1, String.ofList v.2)

def readBytes (path : String) : IO (List Nat) := do
  return (← IO.FS.readBinFile path).toList.map UInt8.toNat

/-- The files of a directory and of those below it, without hidden ones. -/
partial def readDirectory (disk : Disk) (path : String) : IO Disk := do
  let mut disk := disk.place (keyOf path) .directory
  for e in ← (← IO.FS.realPath path).readDir do
    unless e.fileName.startsWith "." do
      let inner := path ++ "/" ++ e.fileName
      match (← e.path.symlinkMetadata).type with
      | .dir => disk ← readDirectory disk inner
      | .file => disk := disk.place (keyOf inner) (.file (contentOf (← readBytes inner)))
      | _ => pure ()
  return disk

/-- Writes the entries that are new or changed. -/
def writeChanges (before after : Disk) : IO Unit := do
  for (key, e) in after.entries do
    if before.entry? key != some e then
      let path := "/" ++ "/".intercalate key
      match e with
      | .directory => IO.FS.createDirAll path
      | .file content => IO.FS.writeBinFile path (bytesOf content)

/-- The pages of the document in the working directory, if there is one. -/
def pagesOf (disk : Disk) (cwd : Path) : List Page :=
  match disk.read cwd (Path.ofString "pages.json") with
  | .error _ => []
  | .ok content =>
    match content.toText.toOption.map Json.read with
    | some (.ok (.arr vs)) => vs.map Page.ofJson
    | _ => []

/-- A number of twelve hexadecimal digits for a run. -/
def freshRunId : IO String := do
  return String.ofList ((← IO.getRandomBytes 6).toList.flatMap fun b => Text.hex 2 b.toNat)

def today : IO Date := do
  let d ← Std.Time.PlainDate.now
  return ⟨d.year.toNat, d.month.val.toNat, d.day.val.toNat⟩

def now : IO Int := do
  return (← Std.Time.Timestamp.now).toMillisecondsSinceUnixEpoch.val

def surroundings (cwd : Path) : IO Command.Surroundings := do
  return {
    environment := { vars := variablesOf (← readBytes "/proc/self/environ"), cwd }
    registrations := Bundled.registrations
    modules := fun _ => none
    runId := ← freshRunId
    today := ← today }

/-- Prints what a command answers, and returns its exit code. -/
def answer : Except Failure Command.Reply → IO UInt32
  | .ok (.done status texts) => do
    texts.forM IO.println
    return status.code.toUInt32
  | .ok .help => do
    Command.usage.forM IO.println
    return 0
  | .ok (.misused f) => do
    IO.eprintln ("walkthrough: error: " ++ f.message)
    return 2
  | .error e => do
    IO.eprintln (e.kindName ++ ": " ++ e.message)
    return 1

end Walkthrough.CommandLine

open Walkthrough in
open CommandLine in
def main (arguments : List String) : IO UInt32 := do
  let here := (← IO.currentDir).toString
  let cwd := Path.ofString here
  let disk ← readDirectory {} here
  let session : Session :=
    { pages := pagesOf disk cwd, clock := ← now, desk := { disk, cwd } }
  let o := Command.run (← surroundings cwd) arguments session
  o.logs.forM fun l => IO.eprintln l.text
  writeChanges disk o.state.desk.disk
  answer o.result
