import NodeReport.Page.Report

/-! # Command-line arguments

  There are three commands. The reports take settings with a value each and switches without one;
  a setting's value follows it, or is joined to it by an equals sign, and one-letter names can be
  written together. Each setting and switch may be given once.
-/

namespace NodeReport

/-- What both reports take. -/
structure ReportArguments where
  /-- The date, as it was given. -/
  date : Option String := none
  /-- Path of the database. -/
  database : Option String := none
  /-- Path of the directory with a database per year. -/
  directory : Option String := none
  /-- The form of the report. -/
  format : Format := .html
  /-- Path of the file that the report goes to. -/
  output : Option String := none
  /-- Whether every notice is shown. -/
  verbose : Bool := false
deriving DecidableEq

/-- What the program is asked to do. -/
inductive Command where
  /-- Report on every data node for one day. -/
  | daily (showAll : Bool) (arguments : ReportArguments)
  /-- Report on one network for a month. -/
  | network (code : String) (arguments : ReportArguments)
  /-- Set a statistics store up. -/
  | init (database : String) (verbose : Bool)
deriving DecidableEq

/-- Why arguments are not carried out. -/
inductive Refusal where
  /-- They ask for help. -/
  | help
  /-- They ask for the version. -/
  | version
  /-- They name no command. -/
  | noCommand
  /-- They name a command that does not exist. -/
  | unknownCommand
  /-- There is an argument that the command does not take. -/
  | unknownArgument
  /-- A setting has no value, or one that it does not take. -/
  | invalidValue
  /-- A setting or a switch is given twice. -/
  | repeated
  /-- A setting that the command needs is missing. -/
  | missingArgument
  /-- A switch has a value. -/
  | unexpectedValue
deriving DecidableEq, Repr

/-- The exit code: asking for help or the version is no failure. -/
def Refusal.exitCode : Refusal → Nat
  | .help => 0
  | .version => 0
  | _ => 2

namespace Arguments

/-- The names of the commands. -/
inductive CommandName where
  | daily
  | network
  | init
deriving DecidableEq, Repr

/-- What takes a value. -/
inductive Setting where
  | date
  | database
  | directory
  | format
  | output
  | code
deriving DecidableEq, Repr

/-- What takes none. -/
inductive Switch where
  | showAll
  | verbose
  | help
deriving DecidableEq, Repr

/-- A setting or a switch. -/
inductive Parameter where
  | setting (s : Setting)
  | switch (s : Switch)
deriving DecidableEq, Repr

/-- The command with this name. -/
def commandName? (name : String) : Option CommandName :=
  if name = "daily" then some .daily
  else if name = "network" then some .network
  else if name = "init" then some .init
  else none

/-- Whether a command takes a parameter. -/
def takes : CommandName → Parameter → Bool
  | _, .switch .help => true
  | _, .switch .verbose => true
  | _, .setting .database => true
  | .daily, .switch .showAll => true
  | .network, .setting .code => true
  | .init, _ => false
  | _, .switch .showAll => false
  | _, .setting .code => false
  | _, .setting _ => true

/-- The parameter with this long name. -/
def longName? (name : List Char) : Option Parameter :=
  match String.ofList name with
  | "date" => some (.setting .date)
  | "db" => some (.setting .database)
  | "db-dir" => some (.setting .directory)
  | "format" => some (.setting .format)
  | "output" => some (.setting .output)
  | "code" => some (.setting .code)
  | "showall" => some (.switch .showAll)
  | "verbose" => some (.switch .verbose)
  | "help" => some (.switch .help)
  | _ => none

/-- The parameter with this name of one letter. -/
def shortName? (name : Char) : Option Parameter :=
  if name = 'o' then some (.setting .output)
  else if name = 'v' then some (.switch .verbose)
  else if name = 'h' then some (.switch .help)
  else none

/-- The form with this name. -/
def format? (name : String) : Option Format :=
  if name = "html" then some .html
  else if name = "text" then some .text
  else if name = "json" then some .json
  else none

/-- Whether a setting takes a value: paths are not empty, and the form is one of the three. -/
def acceptsValue : Setting → String → Bool
  | .date, _ => true
  | .code, _ => true
  | .format, v => (format? v).isSome
  | _, v => !v.isEmpty

/-! ### Reading -/

/-- What was read so far. -/
structure Given where
  /-- The settings with their values. -/
  settings : List (Setting × String) := []
  /-- The switches. -/
  switches : List Switch := []
  /-- The setting that was read last, and its value once it is there; it is checked when the next
      parameter comes, or at the end. -/
  pending : Option (Setting × Option String) := none
  /-- Whether everything that follows is no parameter. -/
  closed : Bool := false

namespace Given

/-- Takes the value of a setting. -/
def setting (g : Given) (s : Setting) (value : String) : Except Refusal Given :=
  if g.settings.any fun e => e.1 == s then .error .repeated
  else if acceptsValue s value then .ok { g with settings := g.settings ++ [(s, value)] }
  else .error .invalidValue

/-- Takes the setting that was read last. -/
def settle (g : Given) : Except Refusal Given :=
  match g.pending with
  | none => .ok g
  | some (_, none) => .error .invalidValue
  | some (s, some value) => { g with pending := none }.setting s value

/-- Takes a switch. -/
def switch (g : Given) (s : Switch) : Except Refusal Given := do
  let g ← g.settle
  if s = .help then .error .help
  else if g.switches.contains s then .error .repeated
  else .ok { g with switches := g.switches ++ [s] }

/-- Takes a setting with the value that is joined to it, or waits for its value. -/
def settingWith (g : Given) (s : Setting) (value : Option String) : Except Refusal Given := do
  let g ← g.settle
  match value with
  | some v => g.setting s v
  | none => .ok { g with pending := some (s, none) }

/-- Takes names of one letter that are written together. -/
def letters (command : CommandName) (g : Given) : List Char → Except Refusal Given
  | [] => .ok g
  | c :: rest =>
    match (shortName? c).filter (takes command) with
    | none => .error .unknownArgument
    | some (.switch s) => do
      let g ← g.switch s
      g.letters command rest
    | some (.setting s) =>
      g.settingWith s
        (match rest with
        | [] => none
        | '=' :: value => some (String.ofList value)
        | value => some (String.ofList value))

/-- Takes a long name, with what stands after its equals sign. -/
def longName (command : CommandName) (g : Given) (body : List Char) : Except Refusal Given :=
  let name := body.takeWhile (· != '=')
  let value :=
    match body.dropWhile (· != '=') with
    | _ :: value => some (String.ofList value)
    | [] => none
  match (longName? name).filter (takes command) with
  | none => .error .unknownArgument
  | some (.setting s) => g.settingWith s value
  | some (.switch s) => if value.isSome then .error .unexpectedValue else g.switch s

/-- Takes one argument. -/
def argument (command : CommandName) (g : Given) (arg : String) : Except Refusal Given :=
  if g.closed then .error .unknownArgument
  else
    let plain : Except Refusal Given :=
      match g.pending with
      | some (s, none) => .ok { g with pending := some (s, some arg) }
      | _ => .error .unknownArgument
    match arg.toList with
    | '-' :: '-' :: body => if body.isEmpty then .ok { g with closed := true }
      else g.longName command body
    | '-' :: c :: rest => g.letters command (c :: rest)
    | _ => plain

/-- The value of a setting. -/
def value? (g : Given) (s : Setting) : Option String :=
  (g.settings.find? fun e => e.1 == s).map fun e => e.2

/-- What both reports take. -/
def reportArguments (g : Given) : ReportArguments where
  date := g.value? .date
  database := g.value? .database
  directory := g.value? .directory
  format := ((g.value? .format).bind format?).getD .html
  output := g.value? .output
  verbose := g.switches.contains .verbose

/-- The command with what was given to it. -/
def toCommand (g : Given) : CommandName → Except Refusal Command
  | .daily => .ok (.daily (g.switches.contains .showAll) g.reportArguments)
  | .network =>
    .ok (.network ((g.value? .code).getD Report.defaultNetwork) g.reportArguments)
  | .init =>
    match g.value? .database with
    | some path => .ok (.init path (g.switches.contains .verbose))
    | none => .error .missingArgument

end Given

/-- The arguments of a command. -/
def readCommand (command : CommandName) (args : List String) : Except Refusal Command := do
  let given ← args.foldlM (Given.argument command) {}
  let given ← given.settle
  given.toCommand command

/-- The name of the command that explains another. -/
def helpName : String := "help"

/-- Whether a name is that of a command. -/
def isCommand (name : String) : Bool :=
  (commandName? name).isSome || name == helpName

/-- Arguments that ask for help: at most one command can be named. -/
def readHelp : List String → Refusal
  | [] => .help
  | [name] => if isCommand name then .help else .unknownCommand
  | _ => .unknownCommand

/-- A parameter in front of a command: only those that ask for help or the version. -/
def readFront (long : Bool) (body : List Char) : Refusal :=
  if long then
    let name := String.ofList (body.takeWhile (· != '='))
    let refusal :=
      if name = "help" then some Refusal.help
      else if name = "version" then some .version
      else none
    match refusal with
    | some r => if body.contains '=' then .unexpectedValue else r
    | none => .unknownArgument
  else
    match body with
    | 'h' :: _ => .help
    | 'V' :: _ => .version
    | _ => .unknownArgument

/-- The command that the arguments ask for. -/
def read : List String → Except Refusal Command
  | [] => .error .noCommand
  | name :: rest =>
    match commandName? name with
    | some command => readCommand command rest
    | none =>
      if name = helpName then .error (readHelp rest)
      else
        match name.toList with
        | ['-', '-'] =>
          match rest with
          | [] => .error .noCommand
          | after :: _ =>
            .error (if isCommand after then .unknownArgument else .unknownCommand)
        | '-' :: '-' :: body => .error (readFront true body)
        | '-' :: c :: body => .error (readFront false (c :: body))
        | _ => .error .unknownCommand

end Arguments

end NodeReport
