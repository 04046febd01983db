import TankGauge.Console
import TankGauge.Startup

/-!
# The program

Starts a node with the settings of the environment and runs it at the console until the input ends.
Only this module reads the environment, files, the clock and the console.
-/

namespace TankGauge.Program

/-- The number of an error, which the system may give with a minus sign. -/
def errorNumber (code : UInt32) : UInt32 := if code < 0x80000000 then code else 0 - code

/-- The fault of a file that the system would not read. -/
def fileFault : IO.Error → FileFault
  | .noFileOrDirectory .. => .notFound
  | e@(.permissionDenied _ code _) | e@(.inappropriateType _ code _)
  | e@(.invalidArgument _ code _) =>
    match errorNumber code with
    | 13 => .notPermitted
    | 20 => .notAFolder
    | 21 => .isAFolder
    | 36 => .nameTooLong
    | _ => .other (toString e)
  | e => .other (toString e)

/-- Reads a file. -/
def readFile (path : String) : IO (Except FileFault Bytes) := do
  try return .ok (← IO.FS.readBinFile path).toList
  catch e => return .error (fileFault e)

/-- What the environment says. -/
def environment : IO Startup.Environment := do
  return {
    configPath := ← IO.getEnv "TANKNODE_CONFIG"
    brokerHost := ← IO.getEnv "MQTT_HOST"
    brokerPort := ← IO.getEnv "MQTT_PORT" }

/-- Shows what has not been shown yet. -/
def showNews (w : LinkedWorker) : IO LinkedWorker := do
  let (news, w) := Console.takeNews w
  news.log.forM IO.eprintln
  news.packets.forM IO.println
  (← IO.getStdout).flush
  return w

/-- Waits for a line in the background. -/
def nextLine : IO (Task (Except IO.Error String)) := do
  IO.asTask (← IO.getStdin).getLine .dedicated

/-- Lets lines and timers reach a worker until the input ends. `opened` is the instant at which its
clock stood at zero. -/
partial def serve (opened : Nat) (typed : Task (Except IO.Error String)) (w : LinkedWorker) :
    IO Unit := do
  let now := (← IO.monoMsNow) - opened
  let w ← showNews (w.wakeAt now)
  if ← IO.hasFinished typed then
    let line ← IO.ofExcept typed.get
    if line.isEmpty then return
    match Console.readLine? line with
    | none =>
      IO.eprintln "accept | reject | message TOPIC PAYLOAD | close"
      serve opened (← nextLine) w
    | some act => serve opened (← nextLine) (w.act act)
  else
    IO.sleep (UInt32.ofNat (max 1 (Console.idleTime 20 now w)))
    serve opened typed w

/-- Starts a node and runs it, or says why it cannot be started. -/
def run : IO UInt32 := do
  let settings ← environment
  let file ← match settings.configPath with
    | none => pure (.error .notFound)
    | some path => readFile path
  match Startup.prepare (fun _ => file) settings with
  | .error fault =>
    (← IO.getStderr).putStr fault.report
    return .ofNat Startup.Fault.exitStatus
  | .ok (config, session) =>
    serve (← IO.monoMsNow) (← nextLine) (Console.begin config session)
    return 0

end TankGauge.Program

/-- The program. -/
def main : IO UInt32 := TankGauge.Program.run
