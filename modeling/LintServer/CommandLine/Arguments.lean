/-
  LintServer.CommandLine.Arguments — what the command line asks for.

  Before the command stand the program's own options; `--version` among them wins over
  whatever follows. After the command, options and other arguments may be mixed. An option
  with a value takes it after an equals sign or from the next argument, whatever that looks
  like; of an option given twice the last counts. What follows `--` is no option, but where no
  command is found the program's own options are looked for once more.
-/

namespace LintServer.CommandLine

inductive Request where
  | version
  | help
  | serve (logLevel logFile : Option String)
  | check (path : String) (eslint : Option String) (json : Bool)
  /-- The arguments make no sense. -/
  | misuse
  deriving DecidableEq, Repr

/-- The options of a command: those that take a value and those that do not. -/
structure Options where
  valued : List String
  flags : List String

/-- What was found among the arguments of a command. -/
structure Found where
  values : List (String × String) := []
  flags : List String := []
  others : List String := []
  deriving Repr

/-- The name of an option and the value after its equals sign. -/
def splitOption (arg : String) : String × Option String :=
  match arg.toList.span (· != '=') with
  | (name, _ :: value) => (String.ofList name, some (String.ofList value))
  | (_, []) => (arg, none)

def isOption (arg : String) : Bool := arg.startsWith "-" && arg != "-"

/-- The arguments of a command, none if an option is unknown or used wrongly. -/
def Options.parse (o : Options) : Found → List String → Option Found
  | found, [] => some found
  | found, arg :: rest =>
    if arg = "--" then some { found with others := found.others ++ rest }
    else if !isOption arg then o.parse { found with others := found.others ++ [arg] } rest
    else
      match splitOption arg with
      | (name, value) =>
        if o.flags.contains name then
          if value.isSome then none else o.parse { found with flags := name :: found.flags } rest
        else if o.valued.contains name then
          match value with
          | some v => o.parse { found with values := (name, v) :: found.values } rest
          | none =>
            match rest with
            | [] => none
            | v :: later => o.parse { found with values := (name, v) :: found.values } later
        else none

def helpFlag : String := "--help"

def serveOptions : Options := { valued := ["--log-level", "--log-file"], flags := [helpFlag] }

def checkOptions : Options := { valued := ["--eslint"], flags := ["--json", helpFlag] }

def Found.value? (f : Found) (name : String) : Option String := f.values.lookup name

def serve? (args : List String) : Option Request := do
  let found ← serveOptions.parse {} args
  if found.flags.contains helpFlag then return .help
  if !found.others.isEmpty then none
  return .serve (found.value? "--log-level") (found.value? "--log-file")

def check? (args : List String) : Option Request := do
  let found ← checkOptions.parse {} args
  if found.flags.contains helpFlag then return .help
  match found.others with
  | [path] =>
    if path.isEmpty then none
    else return .check path (found.value? "--eslint") (found.flags.contains "--json")
  | _ => none

/-- Whether an argument asks for the version: in words, or by letters that all do. -/
def asksVersion (arg : String) : Bool :=
  arg = "--version" ||
    match arg.toList with
    | '-' :: letters => !letters.isEmpty && letters.all (· == 'v')
    | _ => false

/-- The program's own options and what follows them; `shown` says that an option asked for
something that is shown instead. -/
def own (follow : List String → Request) (shown : Option Request) : List String → Request
  | [] => shown.getD .misuse
  | arg :: rest =>
    if asksVersion arg then own follow (shown.or (some .version)) rest
    else if arg = helpFlag then own follow (shown.or (some .help)) rest
    else if arg = "--" then shown.getD (follow rest)
    else if isOption arg then .misuse
    else shown.getD (follow (arg :: rest))

def command : List String → Request
  | "serve" :: args => (serve? args).getD .misuse
  | "check" :: args => (check? args).getD .misuse
  | args => own (fun _ => .misuse) none args

def Request.parse (args : List String) : Request := own command none args

end LintServer.CommandLine
