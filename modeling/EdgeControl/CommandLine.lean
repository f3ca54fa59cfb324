import EdgeControl.Log.Setting
import EdgeControl.Report
import EdgeControl.Text.Blank

/-!
The command line: options, each with one value, and at most one subcommand, which ends the
options. The value of an option is taken at once, but looked at only when the next option or the
end of the arguments comes.
-/
namespace EdgeControl

inductive Subcommand where
  | version
  | checkConfig
  deriving DecidableEq, Repr

namespace Subcommand

def name : Subcommand → String
  | version => "version"
  | checkConfig => "check-config"

def ofName? : String → Option Subcommand
  | "version" => some version
  | "check-config" => some checkConfig
  | _ => none

end Subcommand

structure CommandLine where
  config? : Option String := none
  logLevel? : Option LogLevel := none
  logFormat? : Option LogFormat := none
  subcommand? : Option Subcommand := none
  deriving DecidableEq, Repr

inductive HelpTopic where
  | program
  | subcommand (s : Subcommand)
  | help
  deriving DecidableEq, Repr

/-- Why arguments are no call of the program. Two of the reasons are that they ask for a text. -/
inductive UsageError where
  | displayHelp (topic : HelpTopic)
  | displayVersion
  | missingValue
  | badValue
  | repeatedOption
  | unwantedValue
  | unknownArgument
  | unknownSubcommand
  deriving DecidableEq, Repr

instance : Reported UsageError where
  kind
    | .displayHelp _ => "DisplayHelp"
    | .displayVersion => "DisplayVersion"
    | .missingValue => "InvalidValue"
    | .badValue => "ValueValidation"
    | .repeatedOption => "ArgumentConflict"
    | .unwantedValue => "TooManyValues"
    | .unknownArgument => "UnknownArgument"
    | .unknownSubcommand => "InvalidSubcommand"
  wording? _ := none

namespace CommandLine

def defaultConfig : String := "/etc/xdplb/config.yaml"

inductive Setting where
  | config
  | logLevel
  | logFormat
  deriving DecidableEq, Repr

inductive Meaning where
  | setting (s : Setting)
  | help
  | version
  deriving DecidableEq, Repr

def Meaning.ofName? : String → Option Meaning
  | "config" => some (.setting .config)
  | "log-level" => some (.setting .logLevel)
  | "log-format" => some (.setting .logFormat)
  | "help" => some .help
  | "version" => some .version
  | _ => none

def Meaning.ofLetter? : Char → Option Meaning
  | 'c' => some (.setting .config)
  | 'l' => some (.setting .logLevel)
  | 'h' => some .help
  | 'V' => some .version
  | _ => none

inductive Form where
  | escape
  /-- A name behind two dashes, perhaps with an equals sign and a value behind it. -/
  | long (name : String) (value : Option String)
  /-- A letter behind one dash, with a value that starts at once, perhaps after an equals sign. -/
  | short (letter : Char) (value : Option String)
  | plain (text : String)
  deriving DecidableEq, Repr

def shortValue? : List Char → Option String
  | [] => none
  | '=' :: cs => some (String.ofList cs)
  | cs => some (String.ofList cs)

def Form.ofArg (arg : String) : Form :=
  match arg.toList with
  | ['-', '-'] => .escape
  | '-' :: '-' :: cs =>
    match Text.splitOnce '=' cs with
    | none => .long (String.ofList cs) none
    | some (name, value) => .long (String.ofList name) (some (String.ofList value))
  | '-' :: c :: cs => .short c (shortValue? cs)
  | _ => .plain arg

/-- The call with the value of one more option. An option has a value, and is given once. -/
def withSetting (c : CommandLine) (s : Setting) (value : Option String) :
    Except UsageError CommandLine := do
  let some v := value | throw .missingValue
  match s with
  | .config =>
    if c.config?.isSome then throw .repeatedOption
    return {c with config? := some v}
  | .logLevel =>
    if c.logLevel?.isSome then throw .repeatedOption
    let .ok level := LogLevel.ofString v | throw .badValue
    return {c with logLevel? := some level}
  | .logFormat =>
    if c.logFormat?.isSome then throw .repeatedOption
    let .ok format := LogFormat.ofString v | throw .badValue
    return {c with logFormat? := some format}

structure Progress where
  call : CommandLine := {}
  pending : Option (Setting × Option String) := none
  deriving Repr

namespace Progress

def settled (p : Progress) : Except UsageError CommandLine :=
  match p.pending with
  | none => .ok p.call
  | some (s, value) => p.call.withSetting s value

def waiting? (p : Progress) : Option Setting :=
  match p.pending with
  | some (s, none) => some s
  | _ => none

/-- Takes an option. A value that is attached to it is looked at now. -/
def option (p : Progress) (m : Option Meaning) (value : Option String) :
    Except UsageError Progress := do
  match m, value with
  | none, _ => throw .unknownArgument
  | some (.setting s), none => return {call := ← p.settled, pending := some (s, none)}
  | some (.setting s), some v => return {call := ← (← p.settled).withSetting s (some v)}
  | some .help, none =>
    discard p.settled
    throw (.displayHelp .program)
  | some .version, none =>
    discard p.settled
    throw .displayVersion
  | some _, some _ => throw .unwantedValue

/-- Takes the letter of an option with what is behind it. Letters that ask for a text do so
whatever follows. -/
def letter (p : Progress) (c : Char) (value : Option String) : Except UsageError Progress :=
  match Meaning.ofLetter? c with
  | some (.setting s) => p.option (some (.setting s)) value
  | m => p.option m none

end Progress

/-- What is asked for by the arguments behind a subcommand. They may only ask for help on it. -/
def subcommandRest (s : Subcommand) : List String → Except UsageError Unit
  | [] => .ok ()
  | arg :: rest =>
    match Form.ofArg arg with
    | .escape => if rest.isEmpty then .ok () else .error .unknownArgument
    | .long "help" none => .error (.displayHelp (.subcommand s))
    | .long "help" (some _) => .error .unwantedValue
    | .short 'h' _ => .error (.displayHelp (.subcommand s))
    | _ => .error .unknownArgument

/-- What is asked for by the arguments behind the word help: the name of what help is wanted on.
Nothing is below a subcommand. -/
def helpRest : List String → UsageError
  | [] => .displayHelp .program
  | [name] =>
    match Subcommand.ofName? name with
    | some s => .displayHelp (.subcommand s)
    | none => if name = "help" then .displayHelp .help else .unknownSubcommand
  | _ => .unknownSubcommand

def escapedError (arg : String) : UsageError :=
  if arg = "help" || (Subcommand.ofName? arg).isSome then .unknownArgument else .unknownSubcommand

def read (p : Progress) : List String → Except UsageError CommandLine
  | [] => p.settled
  | arg :: rest =>
    match Form.ofArg arg, p.waiting? with
    | .escape, _ =>
      match rest with
      | [] => p.settled
      | next :: _ => .error (escapedError next)
    | .long name value, _ => do read (← p.option (Meaning.ofName? name) value) rest
    | .short c value, _ => do read (← p.letter c value) rest
    | .plain text, some s => read {p with pending := some (s, some text)} rest
    | .plain "help", none => .error (helpRest rest)
    | .plain text, none => do
      let some s := Subcommand.ofName? text | throw .unknownSubcommand
      subcommandRest s rest
      return {← p.settled with subcommand? := some s}

def ofArgs (args : List String) : Except UsageError CommandLine := read {} args

/-- The configuration file of a call, with the one that the surroundings name as a fallback. -/
def configPath (c : CommandLine) (surroundings : Option String) : String :=
  (c.config? <|> surroundings).getD defaultConfig

end CommandLine
end EdgeControl
