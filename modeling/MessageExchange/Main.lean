import MessageExchange.Cli.Run

/-! The program itself: it reads the files a run asks for, prints what the run says, and takes the end of
its standard input for the signal to stop. -/

namespace MessageExchange.Cli

/-- Why a file could not be read, as far as it can be told. -/
def readFailure : IO.Error → ReadFailure
  | .inappropriateType _ code _ => if code = 20 then .notDirectory else .isDirectory
  | _ => .missing

def readNow (path : String) : IO (Except ReadFailure (List UInt8)) := do
  try
    let bytes ← IO.FS.readBinFile path
    return .ok bytes.toList
  catch e => return .error (readFailure e)

/-- The files that a run can ask for: its configuration and the endpoint file named there. -/
def gather (args : Arguments) : IO Files := do
  let config ← readNow args.config
  match Settings.load (fun _ => config) args.config with
  | .ok { endpointFile := some path, .. } =>
    let endpoints ← readNow path
    return fun p => if p = args.config then config else endpoints
  | _ => return fun _ => config

/-- Prints what was said since `before`. -/
def report (before after : Record) : IO Unit := do
  for m in after.log.drop before.log.length ++ after.results.drop before.results.length do
    IO.println (m.level.text.toUpper ++ " " ++ m.text)
  for c in after.complaints.drop before.complaints.length do
    IO.eprintln c

partial def awaitEnd (input : IO.FS.Stream) : IO Unit := do
  if (← input.getLine).isEmpty then return
  awaitEnd input

/-- Runs until standard input ends. -/
def execute (args : List String) : IO UInt32 := do
  let silent : Record := ⟨.usual, [], [], []⟩
  match Arguments.read args with
  | .error .help =>
    IO.println Usage.help.text
    return 0
  | .error usage =>
    IO.eprintln usage.text
    return 2
  | .ok args =>
    match launch (← gather args) args (← IO.rand 0 (1 <<< 120)) with
    | .error ended =>
      report silent ended.record
      return UInt32.ofNat ended.exitCode
    | .ok running =>
      report silent running.record
      awaitEnd (← IO.getStdin)
      let ended := running.stop
      report running.record ended.record
      return UInt32.ofNat ended.exitCode

end MessageExchange.Cli

def main (args : List String) : IO UInt32 := MessageExchange.Cli.execute args
