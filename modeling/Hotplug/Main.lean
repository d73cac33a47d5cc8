import Hotplug.CommandLine.Program
import Std.Async.Signal
import Std.Time.Format

/-!
# The command line

Runs the program in real time: the clock, the file of the device and the signals of the
operating system are passed on to its world, and its log is printed.
-/

namespace Hotplug.Program

/-! ## Files -/

/-- What the operating system says about a file that cannot be read. -/
def faultOf : IO.Error → FileFault
  | .noFileOrDirectory .. => .notFound
  | .permissionDenied .. => .permissionDenied
  | .inappropriateType _ code _ => if code = 20 then .notADirectory else .isADirectory
  | _ => .invalidInput

/-- The bytes of a file. -/
def readFile (path : String) : IO (Except FileFault (List UInt8)) := do
  try
    return .ok (← IO.FS.readBinFile path).toList
  catch e =>
    return .error (faultOf e)

/-- The files as far as the program looks at them: the one of the device, if it is there. -/
def lookAround (p : Program) : IO FileTree := do
  let path := p.settings.deviceId.path
  try
    discard (IO.FS.realPath path)
    return .holding path
  catch e =>
    return if faultOf e = .notFound then { nodes := [], workplace := [] } else .holding path

/-! ## Signals -/

/-- A signal that is waited for. -/
structure Ear where
  signal : Signal
  waiter : Std.Async.Signal.Waiter
  pending : Std.Async.AsyncTask Int

/-- Begins to wait for a signal. -/
def listen (s : Signal) (native : Std.Async.Signal) : IO Ear := do
  let waiter ← Std.Async.Signal.Waiter.mk native true
  return ⟨s, waiter, ← waiter.wait⟩

/-- Passes a signal on if it has come. -/
def hear (e : Ear) (w : Run) : IO (Ear × Run) := do
  if ← IO.hasFinished e.pending then
    return ({ e with pending := ← e.waiter.wait }, signal w e.signal)
  return (e, w)

/-! ## Printing -/

/-- The time of day in universal time. -/
def timestamp : IO String := do
  let now ← Std.Time.Timestamp.now
  let time := Std.Time.PlainDateTime.ofWallTime (now.toWallTime Std.Time.TimeZone.Offset.zero)
  return time.format "uuuu-MM-dd'T'HH:mm:ss.SSSSSS'Z'"

/-- Prints lines. -/
def printLines (p : Program) (ls : List Line) : IO Unit := do
  let output ← IO.getStdout
  for l in ls do
    output.putStrLn (p.timed (← timestamp) l)
  output.flush

/-! ## Running -/

/-- How many steps a world takes at most between two looks at the clock. -/
def haste : Nat := 1000000

/-- Goes on until the run has ended, looking at the world outside every few milliseconds. -/
partial def go (p : Program) (began : Nat) (ears : Ear × Ear) (w : Run) : IO Nat := do
  let (first, w) ← hear ears.1 w
  let (second, w) ← hear ears.2 w
  let w := { w with files := ← lookAround p }
  let w := w.advance haste ((← IO.monoMsNow) - began)
  printLines p (p.lines (messages w))
  match exitCode? w with
  | some code =>
    printLines p (p.lines ((closing w).map (·, none)))
    return code
  | none =>
    IO.sleep 5
    go p began (first, second) (forget w)

/-- Runs the program; gives its exit code. -/
def run (p : Program) : IO Nat := do
  printLines p (p.lines (p.opening.map (·, none)))
  let ears := (← listen .interrupt .sigint, ← listen .terminate .sigterm)
  go p (← IO.monoMsNow) ears (p.launch (← lookAround p))

end Hotplug.Program

open Hotplug in
/-- Supervises the device that the command line and its configuration file name. -/
def main (args : List String) : IO UInt32 := do
  match Arguments.parse args with
  | .error .help =>
    Arguments.help.forM IO.println
    return 0
  | .error .misuse =>
    IO.eprintln "error: the command line cannot be understood, try '--help'"
    return UInt32.ofNat Program.misuseCode
  | .ok a =>
    let file ← a.config.mapM Program.readFile
    match Program.prepare a (← IO.getEnv "RUST_LOG") file with
    | .error f =>
      IO.eprintln (Program.complaint f)
      return UInt32.ofNat Program.misuseCode
    | .ok p => return UInt32.ofNat (← p.run)
