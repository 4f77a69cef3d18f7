/-!
# The command line

The options of the program, its help, and what is said about arguments that it does not take.
-/

namespace WeatherRelay.CommandLine

/-- The name of the program. -/
def program : String := "wxpublish"

/-- What the program is told. -/
structure Options where
  config : String := "config.yaml"
  isVerbose : Bool := false
deriving DecidableEq, Repr

/-- Why the program ends before it begins. -/
inductive Early where
  | help
  | unknownArgument (argument : String)
  | noValue (option : String)
  | secondValue (option value : String)
  | afterHelp
deriving DecidableEq, Repr

/-- The arguments that ask for help. -/
def helpWords : List String := ["--help", "help"]

/-- The help. -/
def helpLines : List String :=
  [s!"Usage: {program} [-c <config>] [-v]", "", "Publish WeatherFlow observations to weather services", "", "Options:",
    "  -c, --config      path to YAML configuration file",
    "  -v, --verbose     enable debug logging",
    "  --help, help      display usage information", ""]

/-- What is said at an early end. -/
def Early.lines : Early → List String
  | .help => helpLines
  | .unknownArgument argument => [s!"Unrecognized argument: {argument}", ""]
  | .noValue option => [s!"No value provided for option '{option}'.", ""]
  | .secondValue option value =>
    [s!"Error parsing option '{option}' with value '{value}': duplicate values provided", ""]
  | .afterHelp => ["Trailing arguments are not allowed after \x60help\x60."]

/-- What has been read of the arguments. -/
structure Progress where
  config : Option String := none
  isVerbose : Bool := false
  wantsHelp : Bool := false
  optionsEnded : Bool := false

/-- Reads arguments from the first to the last. -/
def read (p : Progress) : List String → Except Early Progress
  | [] => .ok p
  | a :: rest =>
    if p.optionsEnded then .error (.unknownArgument a)
    else if helpWords.contains a then read { p with wantsHelp := true } rest
    else if !a.startsWith "-" then .error (.unknownArgument a)
    else if a = "--" then read { p with optionsEnded := true } rest
    else if p.wantsHelp then .error .afterHelp
    else if a = "-v" ∨ a = "--verbose" then read { p with isVerbose := true } rest
    else if a = "-c" ∨ a = "--config" then
      match rest with
      | [] => .error (.noValue a)
      | value :: rest =>
        if p.config.isSome then .error (.secondValue a value) else read { p with config := some value } rest
    else .error (.unknownArgument a)

/-- The options that arguments give. -/
def parse (arguments : List String) : Except Early Options :=
  match read {} arguments with
  | .error e => .error e
  | .ok p =>
    if p.wantsHelp then .error .help
    else .ok { config := p.config.getD "config.yaml", isVerbose := p.isVerbose }

end WeatherRelay.CommandLine
