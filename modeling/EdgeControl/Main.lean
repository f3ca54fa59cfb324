import EdgeControl.Json.Printer
import EdgeControl.Program

/-!
The program on a command line: it reads the files that a run asks for, and prints what the run
comes to. Object files are not taken apart here, so an agent ends where it would load one.
-/
namespace EdgeControl.Program

def readAt (path : String) : IO (Except Refusal String) := do
  try
    return .ok (← IO.FS.readFile path)
  catch
    | .noFileOrDirectory .. => return .error .noSuchFile
    | .permissionDenied .. => return .error .accessDenied
    | .inappropriateType .. => return .error .isDirectory
    | _ => return .error .invalidArgument

def readDevice (name : String) : IO (List Device) := do
  let about (what : String) : IO (Option (List Char)) := do
    return (← readAt s!"/sys/class/net/{name}/{what}").toOption.map fun s => Text.trim s.toList
  let ifindex := (← about "ifindex").bind (Text.decimal? (UInt32.size - 1))
  let mac := (← about "address").bind Mac.ofText?
  match ifindex, mac with
  | some ifindex, some mac => return [⟨name, UInt32.ofNat ifindex, mac⟩]
  | _, _ => return []

def readSurroundings (args : List String) : IO Surroundings := do
  let configVariable ← IO.getEnv "XDPLB_CONFIG"
  let call := (CommandLine.ofArgs args).toOption.getD {}
  let configText ← readAt (call.configPath configVariable)
  let config? := (configText.toOption.map Config.ofYaml).bind Except.toOption
  let devices ← match config? with
    | none => pure []
    | some c => readDevice c.device
  let object ← match config? with
    | none => pure (.error .noSuchFile)
    | some c => readAt c.objectPath
  return {
    host := {devices, neighbors := (← readAt "/proc/net/arp").toOption}
    configFile := fun _ => configText.map fun content => {permissions := 0o644, content}
    objectFile := fun _ => object.map fun _ => .malformed
    configVariable}

end EdgeControl.Program

open EdgeControl in
def main (args : List String) : IO UInt32 := do
  let run := Program.run (← Program.readSurroundings args) args
  IO.print run.output
  for line in run.lines do
    IO.println (String.ofList line.toText)
  IO.eprint (run.complaint.getD "Error: YAML parse error\n")
  return run.exitCode.toUInt32
