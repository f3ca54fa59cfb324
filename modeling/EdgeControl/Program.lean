import EdgeControl.Agent.Lifecycle
import EdgeControl.CommandLine

/-!
The program as a whole: what it does for its arguments, and what of that its caller sees.
-/
namespace EdgeControl

inductive Signal where
  | interrupt
  | terminate
  deriving DecidableEq, Repr

def Signal.notHandled : Signal → LogEvent
  | interrupt => ⟨.error, s!"failed to listen for Ctrl+C: {Refusal.invalidArgument.message}", []⟩
  | terminate =>
    ⟨.error, s!"failed to install SIGTERM handler: {Refusal.invalidArgument.message}", []⟩

structure Surroundings where
  host : Host
  configFile : String → Except Refusal Config.File
  objectFile : String → Except Refusal Kernel.ObjectFile
  configVariable : Option String := none
  refusedSignal : Option Signal := none

structure Run where
  exitCode : UInt8 := 0
  output : String := ""
  /-- What is said on the error output. The wording for a malformed text is left open. -/
  complaint : Option String := some ""
  format : LogFormat := .json
  opening : Log := #[]
  log : Log := #[]
  /-- The events of what runs beside it, in no particular order. -/
  background : Log := #[]
  /-- The devices that carry the packet program when the agent is ready. -/
  ready : Option (List UInt32) := none
  left : List UInt32 := []

namespace Program

def name : String := "xdplb-agent"

def version : String := "0.1.0"

def span : Json := .obj [("name", .str "service"), ("version", .str version)]

def place : String := "xdplb_agent::startup"

def helpOption : String := "-h, --help"

def helpText (configVariable : Option String) : HelpTopic → String
  | .program => "\n".intercalate [
    "XDP load balancer with firewall and DoS protection",
    "",
    s!"Usage: {name} [OPTIONS] [COMMAND]",
    "",
    "Commands:",
    "  version       Display version and build information",
    "  check-config  Parse and validate the configuration file, then exit",
    "  help          Print this message or the help of the given subcommand(s)",
    "",
    "Options:",
    s!"  -c, --config <CONFIG>          Path to the YAML configuration file {shown}",
    "  -l, --log-level <LOG_LEVEL>    Log level override (takes precedence over config file)",
    "      --log-format <LOG_FORMAT>  " ++
      "Log format: json (default, production) or text (development)",
    s!"  {helpOption}                     Print help",
    "  -V, --version                  Print version",
    ""]
  | .subcommand .version => subcommandText "Display version and build information" "version"
  | .subcommand .checkConfig =>
    subcommandText "Parse and validate the configuration file, then exit" "check-config"
  | .help => "\n".intercalate [
    "Print this message or the help of the given subcommand(s)",
    "",
    s!"Usage: {name} help [COMMAND]...",
    "",
    "Arguments:",
    "  [COMMAND]...  Print help for the subcommand(s)",
    ""]
where
  shown : String :=
    let value := configVariable.getD ""
    s!"[env: XDPLB_CONFIG={value}] [default: {CommandLine.defaultConfig}]"
  subcommandText (about subcommand : String) : String := "\n".intercalate [
    about, "", s!"Usage: {name} {subcommand}", "", "Options:", s!"  {helpOption}  Print help", ""]

def misused (configVariable : Option String) : UsageError → Run
  | .displayHelp topic => {output := helpText configVariable topic}
  | .displayVersion => {output := s!"{name} {version}\n"}
  | e => {exitCode := 2, complaint := some s!"error: {Reported.kind e}\n"}

def failed (f : Failure) : Run := {exitCode := 1, complaint := some f.report}

def misconfigured : ConfigError → Run
  | .malformed => {exitCode := 1, complaint := none}
  | e => failed e.failure

def checked (path : String) (c : Config) : String :=
  s!"{path}: ok (upstream {c.device}, vip {c.vip}, {c.rules.length} firewall rules, " ++
    s!"{c.policies.length} DoS policies, {c.backends.length} backends)\n"

def background (c : Config) (refused : Option Signal) : Log :=
  let jobs : List (Job (Agent Kernel)) :=
    [Agent.floodJob, Agent.flowJob c.tracking (.ofMillis 0), Agent.trafficJob]
  let events := jobs.flatMap fun job => job.started ++ job.stopped
  (events ++ (refused.map Signal.notHandled).toList).toArray

/-- The run of an agent with a configuration. It ends by itself if it fails, and else by a signal,
before any of its jobs has made a pass. -/
def serve (s : Surroundings) (c : Config) : Run :=
  match (Agent.setUp c s.host (s.objectFile c.objectPath)).run #[] with
  | (.error e, log) => {failed e.failure with log}
  | (.ok agent, log) =>
    let o := (Agent.populate c).outcome agent log
    match o.answer with
    | .error e => {failed {text := e.message} with log := o.log, left := attached o.state}
    | .ok () =>
      let ended := Agent.leave.outcome o.state o.log
      {log := ended.log
       background := background c s.refusedSignal
       ready := some (attached o.state)
       left := attached ended.state}
where
  attached (a : Agent Kernel) : List UInt32 := a.base.attached.toList

/-- The run of the agent. The options win over the configuration. -/
def runAgent (s : Surroundings) (call : CommandLine) (path : String) (c : Config) : Run :=
  let level := call.logLevel?.getD c.logLevel
  let format := call.logFormat?.getD c.logFormat
  let opening := LogEvent.info "xdplb agent starting"
    [("config_path", path), ("log_level", level.name), ("log_format", format.name)]
  let run := serve s c
  {run with
    format
    opening := Log.upTo level #[opening]
    log := run.log.upTo level
    background := run.background.upTo level}

def runCall (s : Surroundings) (call : CommandLine) : Run :=
  let path := call.configPath s.configVariable
  let (loaded, _) := (Config.load path (s.configFile path)).run #[]
  match call.subcommand?, loaded with
  | some .version, _ => {output := s!"{name} {version}\n"}
  | _, .error e => misconfigured e
  | some .checkConfig, .ok c => {output := checked path c}
  | none, .ok c => runAgent s call path c

def run (s : Surroundings) (args : List String) : Run :=
  match CommandLine.ofArgs args with
  | .error e => misused s.configVariable e
  | .ok call => runCall s call

end Program

namespace Run

def lines (r : Run) : List Json :=
  match r.format with
  | .text => []
  | .json =>
    r.opening.toList.map (fun e => .obj (e.members ++ [("target", .str Program.place)])) ++
      r.log.toList.map fun e => .obj (e.members ++ [("spans", .arr [Program.span])])

def backgroundMessages (r : Run) : List String :=
  match r.format with
  | .text => []
  | .json => (r.background.toList.map (·.message)).mergeSort (· ≤ ·)

end Run
end EdgeControl
