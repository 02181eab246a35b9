import FleetQuery.Engine

/-!
# Command line

Options have long names, and some a short one. The value of an option follows as the next argument,
after an equals sign, or right after a short name. No option may come twice, and there are no
arguments besides options.
-/
namespace FleetQuery.CommandLine

/-- Options that take a value. -/
inductive Setting where
  | question
  | save
  | runSaved
  | out
  | outFile
  | inventory
  | savedFile
  | config
deriving DecidableEq

/-- Options that take none. -/
inductive Flag where
  | json
  | listSaved
deriving DecidableEq

inductive Argument where
  | setting (setting : Setting)
  | flag (flag : Flag)
  | help
  | version
deriving DecidableEq

/-- Why the arguments are not carried out. -/
inductive UsageError where
  | unknownArgument
  | invalidValue
  | argumentConflict
  | tooManyValues
  | displayHelp
  | displayVersion
deriving DecidableEq

def longNames : List (String × Argument) :=
  [("question", .setting .question),
   ("json", .flag .json),
   ("save", .setting .save),
   ("list-saved", .flag .listSaved),
   ("run-saved", .setting .runSaved),
   ("out", .setting .out),
   ("out-file", .setting .outFile),
   ("inventory", .setting .inventory),
   ("saved-file", .setting .savedFile),
   ("config", .setting .config),
   ("help", .help),
   ("version", .version)]

def shortNames : List (Char × Argument) :=
  [('q', .setting .question), ('h', .help), ('V', .version)]

/-- Whether a setting takes the value. The only format is `csv`, and a path cannot be empty. -/
def Setting.accepts : Setting → String → Bool
  | .out, value => value == "csv"
  | .outFile, value | .inventory, value | .savedFile, value | .config, value => !value.isEmpty
  | .question, _ | .save, _ | .runSaved, _ => true

/-! ### Reading the arguments -/

/-- The options so far. A setting whose value may still come is waiting, with its value once that is
there; it counts when the next option begins or the arguments end. -/
structure Options where
  settings : List (Setting × String)
  flags : List Flag
  waiting : Option (Setting × Option String)
deriving DecidableEq

def Options.none : Options := ⟨[], [], .none⟩

namespace Options

def set (options : Options) (setting : Setting) (value : String) : Except UsageError Options :=
  if options.settings.any fun given => given.1 == setting then .error .argumentConflict
  else if setting.accepts value then
    .ok { options with settings := options.settings ++ [(setting, value)] }
  else .error .invalidValue

def raise (options : Options) (flag : Flag) : Except UsageError Options :=
  if flag ∈ options.flags then .error .argumentConflict
  else .ok { options with flags := options.flags ++ [flag] }

/-- Counts the setting that waits. -/
def settle (options : Options) : Except UsageError Options :=
  let settled := { options with waiting := .none }
  match options.waiting with
  | .none => .ok settled
  | some (_, .none) => .error .invalidValue
  | some (setting, some value) => settled.set setting value

/-- The options after an argument with the value that is attached to it, if there is one. -/
def take (options : Options) (argument : Argument) (attached : Option String) :
    Except UsageError Options :=
  match argument, attached with
  | .setting setting, some value => do (← options.settle).set setting value
  | .setting setting, .none => do return { ← options.settle with waiting := some (setting, .none) }
  | .flag _, some _ | .help, some _ | .version, some _ => .error .tooManyValues
  | .flag flag, .none => do (← options.settle).raise flag
  | .help, .none => do let _ ← options.settle; throw .displayHelp
  | .version, .none => do let _ ← options.settle; throw .displayVersion

/-- A long name, with a value after an equals sign. -/
def takeLong (options : Options) (body : List Char) : Except UsageError Options :=
  let name := body.takeWhile (· != '=')
  let attached := match body.dropWhile (· != '=') with
    | [] => .none
    | _ :: value => some (String.ofList value)
  match longNames.lookup (String.ofList name) with
  | some argument => options.take argument attached
  | .none => .error .unknownArgument

/-- The value attached to a short name, without the equals sign in front. -/
def attachedToShort : List Char → Option String
  | [] => .none
  | '=' :: value => some (String.ofList value)
  | value => some (String.ofList value)

/-- A short name. Those without a value show a text and end the reading, whatever follows them. -/
def takeShort (options : Options) (name : Char) (rest : List Char) : Except UsageError Options :=
  match shortNames.lookup name with
  | some (.setting setting) => options.take (.setting setting) (attachedToShort rest)
  | some argument => options.take argument .none
  | .none => .error .unknownArgument

/-- An argument that is no option: the value that is waited for. -/
def takeValue (options : Options) (value : String) : Except UsageError Options :=
  match options.waiting with
  | some (setting, .none) => .ok { options with waiting := some (setting, some value) }
  | _ => .error .unknownArgument

def takeAll (options : Options) : List String → Except UsageError Options
  | [] => options.settle
  | argument :: rest =>
    match argument.toList with
    | ['-', '-'] => if rest.isEmpty then options.settle else .error .unknownArgument
    | '-' :: '-' :: body => do (← options.takeLong body).takeAll rest
    | '-' :: name :: after => do (← options.takeShort name after).takeAll rest
    | _ => do (← options.takeValue argument).takeAll rest

def setting? (options : Options) (setting : Setting) : Option String :=
  options.settings.lookup setting

def flag (options : Options) (flag : Flag) : Bool := options.flags.contains flag

/-- What the options ask of the engine. -/
def invocation (options : Options) : Invocation where
  question := options.setting? .question
  save := options.setting? .save
  runSaved := options.setting? .runSaved
  listSaved := options.flag .listSaved
  csv := (options.setting? .out).isSome
  outputFile := options.setting? .outFile

/-- The configuration with the paths of the options in it. -/
def override (options : Options) (config : Config) : Config :=
  { config with
    inventoryPath := (options.setting? .inventory).or config.inventoryPath
    savedPath := (options.setting? .savedFile).getD config.savedPath }

end Options

def read (arguments : List String) : Except UsageError Options := Options.none.takeAll arguments

/-! ### Running -/

/-- What a run leaves behind: an exit code and the text on the standard output. -/
structure Outcome where
  exitCode : Nat
  output : String
deriving DecidableEq

def versionText : String := "qsim 0.1.0\n"

def helpText : String :=
  "Ask natural-language questions of an endpoint inventory\n\n" ++
  "Usage: qsim [OPTIONS]\n\n" ++
  "Options:\n" ++
  "  -q, --question <QUESTION>  Question to evaluate\n" ++
  "      --json                 Emit JSON output (always on)\n" ++
  "      --save <NAME>          Save the question under NAME\n" ++
  "      --list-saved           List saved questions\n" ++
  "      --run-saved <NAME>     Run a saved question\n" ++
  "      --out <OUT>            Include an extra rendering alongside the JSON [csv]\n" ++
  "      --out-file <PATH>      Write the JSON payload to PATH\n" ++
  "      --inventory <PATH>     JSON array of machine records\n" ++
  "      --saved-file <PATH>    Saved-question registry file\n" ++
  "      --config <PATH>        Engine configuration file\n" ++
  "  -h, --help                 Print help\n" ++
  "  -V, --version              Print version\n"

def Outcome.ofUsageError : UsageError → Outcome
  | .displayHelp => ⟨0, helpText⟩
  | .displayVersion => ⟨0, versionText⟩
  | _ => ⟨2, ""⟩

section Files

variable {m : Type → Type} [Monad m] [Files m]

/-- The configuration that the options ask for. -/
def Options.loadConfig (options : Options) : m (Except Failure Config) := do
  match options.setting? .config with
  | some path => return (← Config.load path).map options.override
  | .none => return .ok (options.override .standard)

/-- Carries out the arguments at the time `now`. -/
def run (arguments : List String) (now : String) : m Outcome := do
  match read arguments with
  | .error error => return .ofUsageError error
  | .ok options =>
    match ← options.loadConfig with
    | .error _ => return ⟨1, ""⟩
    | .ok config =>
      let invocation := options.invocation
      let payload ← match ← Engine.ofConfig config with
        | .ok engine => engine.invoke invocation now
        | .error failure => pure (failure.payload (invocation.question.getD ""))
      return ⟨0, payload.canonical.compact ++ "\n"⟩

end Files

end FleetQuery.CommandLine
