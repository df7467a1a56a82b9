import MediaQuery.Command.Run
import MediaQuery.Log.Stamp
import Std.Time.DateTime.Timestamp

/-!
# The program

One run of the program on the arguments of a process: reads the configuration file and the
variables, and writes what the run printed and recorded.
-/

namespace MediaQuery

open Command Text

/-- The variables of the process, as the system lists them; none if it does not. -/
def readVariables : IO Variables := do
  let text ← try IO.FS.readFile "/proc/self/environ" catch _ => pure ""
  return (splitOn (Char.ofNat 0) text.toList).filterMap fun entry =>
    match entry.dropWhile (· != '=') with
    | _ :: value => some (String.ofList (entry.takeWhile (· != '=')), String.ofList value)
    | [] => none

/-- The configuration file that arguments ask for, if it can be read. -/
def readFiles (args : List String) : IO Files := do
  match (readRequest args).bind Request.config? with
  | none => return []
  | some path =>
    try return [(path, ← IO.FS.readFile path)]
    catch _ => return []

/-- The present time as records show it. -/
def now : IO String := do
  let time ← Std.Time.Timestamp.now
  let nanos := time.toNanosecondsSinceUnixEpoch.val.toNat
  return Log.stamp (nanos / 1000000000) (nanos / 1000 % 1000000)

/-- The folder that holds a file, if its path names one. -/
def folderOf (path : String) : String :=
  let rest := (path.toList.reverse.dropWhile (· != '/')).drop 1
  String.ofList rest.reverse

/-- A log file, opened for more lines; it is made if there is none. -/
def openLog (path : String) : IO IO.FS.Handle := do
  let folder := folderOf path
  unless folder.isEmpty do IO.FS.createDirAll folder
  IO.FS.Handle.mk path .append

/-- Writes a record to its sink. -/
def writeRecord (time : String) (d : Log.Delivery) : IO Unit := do
  let line := d.record.text time
  match d.sink with
  | .standardError => IO.eprintln line
  | .file path =>
    let log ← openLog path
    log.putStrLn line

end MediaQuery

open MediaQuery in
/-- Runs the program on the arguments of the process. -/
def main (args : List String) : IO UInt32 := do
  let around : Surroundings := ⟨← readFiles args, ← readVariables⟩
  let (result, app) := Application.initial.run around args
  for path in app.log.opened do
    let _ ← openLog path
  let time ← now
  for record in result.records do
    writeRecord time record
  IO.print result.printed
  match result.error with
  | some e => IO.eprintln e.text
  | none => if result.code = 2 && result.printed.isEmpty then IO.eprint usageText
  return result.code.toUInt32
