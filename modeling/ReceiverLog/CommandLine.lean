import ReceiverLog.Report
import ReceiverLog.Settings.Basic
import ReceiverLog.Text.Split

namespace ReceiverLog

/-! The arguments of the program. An option is written out after two dashes,
or as its letter after one; its value is the next argument, or is attached. -/

structure Options where
  config : Option String
  directory : Option String
  file : Option String
  json : Bool
  raw : Bool
  deriving DecidableEq

inductive Command where
  | follow (options : Options)
  | help
  | version
  deriving DecidableEq

inductive Parameter where
  | config | directory | file
  deriving DecidableEq

inductive Switch where
  | json | raw | help | version
  deriving DecidableEq

inductive Misuse where
  | unexpected (argument : String)
  | valueMissing (parameter : Parameter)
  | valueEmpty (parameter : Parameter)
  | valueUnwanted (argument : String)
  | repeated (option : String)
  deriving DecidableEq

namespace Parameter

def name : Parameter → String
  | .config => "config"
  | .directory => "dir"
  | .file => "file"

/-- A path must not be empty, but the name of a file may be. -/
def takesEmpty : Parameter → Bool
  | .file => true
  | _ => false

def ofName? : String → Option Parameter
  | "config" => some .config
  | "dir" => some .directory
  | "file" => some .file
  | _ => none

def ofLetter? : Char → Option Parameter
  | 'c' => some .config
  | 'd' => some .directory
  | 'f' => some .file
  | _ => none

end Parameter

namespace Switch

def name : Switch → String
  | .json => "json"
  | .raw => "raw"
  | .help => "help"
  | .version => "version"

def ofName? : String → Option Switch
  | "json" => some .json
  | "raw" => some .raw
  | "help" => some .help
  | "version" => some .version
  | _ => none

def ofLetter? : Char → Option Switch
  | 'h' => some .help
  | 'V' => some .version
  | _ => none

end Switch

namespace Misuse

def message : Misuse → String
  | .unexpected argument => "unexpected argument: " ++ argument
  | .valueMissing parameter => "a value is required for --" ++ parameter.name
  | .valueEmpty parameter => "the value of --" ++ parameter.name ++ " must not be empty"
  | .valueUnwanted argument => "no value can be given here: " ++ argument
  | .repeated option => "--" ++ option ++ " cannot be used multiple times"

end Misuse

namespace Options

def unset : Options where
  config := none
  directory := none
  file := none
  json := false
  raw := false

def get? (options : Options) : Parameter → Option String
  | .config => options.config
  | .directory => options.directory
  | .file => options.file

def put (options : Options) (value : String) : Parameter → Options
  | .config => { options with config := value }
  | .directory => { options with directory := value }
  | .file => { options with file := value }

def give (options : Options) (parameter : Parameter) (value : String) :
    Except Misuse Options :=
  if value.isEmpty && !parameter.takesEmpty then .error (.valueEmpty parameter)
  else if (options.get? parameter).isSome then .error (.repeated parameter.name)
  else .ok (options.put value parameter)

end Options

/-- An argument by its outer form. A dash alone is a word like any other. -/
inductive Argument where
  | word
  | terminator
  | long (name : String) (value : Option String)
  | short (letter : Char) (value : Option String)
  deriving DecidableEq

namespace Argument

def attached : List Char → Option String
  | [] => none
  | '=' :: value => some (String.ofList value)
  | value => some (String.ofList value)

def assigned : List Char → Option String
  | '=' :: value => some (String.ofList value)
  | _ => none

def of (text : String) : Argument :=
  match text.toList with
  | ['-', '-'] => .terminator
  | '-' :: '-' :: rest =>
      .long (String.ofList (rest.takeWhile (· != '='))) (assigned (rest.dropWhile (· != '=')))
  | '-' :: letter :: rest => .short letter (attached rest)
  | _ => .word

end Argument

namespace Command

/-- What an argument leaves: a command, or options and the parameter whose
value is to follow. -/
inductive Progress where
  | decided (command : Command)
  | further (options : Options) (awaiting : Option Parameter)
  deriving DecidableEq

/-- Help and the version are given as soon as they are asked for. -/
def turnOn (options : Options) : Switch → Except Misuse Progress
  | .help => .ok (.decided .help)
  | .version => .ok (.decided .version)
  | .json =>
      if options.json then .error (.repeated Switch.json.name)
      else .ok (.further { options with json := true } none)
  | .raw =>
      if options.raw then .error (.repeated Switch.raw.name)
      else .ok (.further { options with raw := true } none)

def assign (options : Options) (parameter : Parameter) :
    Option String → Except Misuse Progress
  | some value => (options.give parameter value).map (.further · none)
  | none => .ok (.further options (some parameter))

def option (options : Options) (text : String) : Argument → Except Misuse Progress
  | .long name value =>
      match Parameter.ofName? name, Switch.ofName? name, value with
      | some named, _, value => assign options named value
      | none, some named, none => turnOn options named
      | none, some _, some _ => .error (.valueUnwanted text)
      | none, none, _ => .error (.unexpected text)
  | .short letter value =>
      match Parameter.ofLetter? letter, Switch.ofLetter? letter with
      | some named, _ => assign options named value
      | none, some named => turnOn options named
      | none, none => .error (.unexpected text)
  | _ => .error (.unexpected text)

def readFrom (options : Options) : Option Parameter → List String → Except Misuse Command
  | none, [] => .ok (.follow options)
  | some awaiting, [] => .error (.valueMissing awaiting)
  | some awaiting, text :: rest =>
      match Argument.of text with
      | .word => do readFrom (← options.give awaiting text) none rest
      | _ => .error (.valueMissing awaiting)
  | none, text :: rest =>
      match Argument.of text with
      | .terminator =>
          match rest with
          | [] => .ok (.follow options)
          | word :: _ => .error (.unexpected word)
      | argument => do
          match ← option options text argument with
          | .decided command => .ok command
          | .further options awaiting => readFrom options awaiting rest

def read (arguments : List String) : Except Misuse Command :=
  readFrom .unset none arguments

end Command

namespace Options

def standardConfig : String := "nmea-tail.json"

def configPath (options : Options) : String :=
  options.config.getD standardConfig

/-- Options go before what the settings say. -/
def override (options : Options) (settings : Settings) : Settings :=
  { settings with
    directory := options.directory.getD settings.directory
    file := options.file.getD settings.file }

def report (options : Options) : Report where
  format := if options.json then .json else .text
  showRaw := options.raw

end Options

/-! ## What the program tells of itself -/

def versionText : String := "nmea-tail 0.1.0\n"

def helpLines : List String := [
  "Tail an NMEA-0183 log and print decoded events",
  "",
  "Usage: nmea-tail [OPTIONS]",
  "",
  "Options:",
  "  -c, --config <CONFIG>  JSON configuration file [default: nmea-tail.json]",
  "  -d, --dir <DIR>        Directory holding the tracked file (overrides the config)",
  "  -f, --file <FILE>      Name of the tracked file (overrides the config)",
  "      --json             Emit JSON lines instead of coloured text",
  "      --raw              Also print every raw sentence",
  "  -h, --help             Print help",
  "  -V, --version          Print version"]

def helpText : String :=
  String.join (helpLines.map (· ++ "\n"))

end ReceiverLog
