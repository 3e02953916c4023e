import CodeGloss.Text.Basic

/-! # Invocations

What a list of arguments asks for.  Some options may be given in front of the command or behind it;
given on both sides, an option with a value counts as it is given behind.  On one side every option
may be given once.  Arguments are taken in order, and the first one that asks for something other
than a run, or that does not fit, decides.
-/

namespace CodeGloss

/-- How an explanation is laid out. -/
inductive Layout
  /-- For a terminal. -/
  | pretty
  /-- As a record. -/
  | json
  deriving DecidableEq, Repr

/-- What the program is to do. -/
inductive Task
  /-- To hold a conversation. -/
  | chat
  /-- To walk through an example. -/
  | demo
  /-- To explain the snippet in a file, or on the standard input. -/
  | annotate (path : Option Text) (layout : Layout)
  /-- To show the settings, or to write a file with the default settings. -/
  | config (writeNew : Bool)
  deriving DecidableEq, Repr

/-- A task with what holds for all tasks. -/
structure Invocation where
  /-- The file with the settings, if it is given. -/
  settingsPath : Option Text := none
  /-- Whether diagnostics are asked for. -/
  verbose : Bool := false
  /-- Whether colours are refused. -/
  plain : Bool := false
  /-- What the program is to do. -/
  task : Task := .chat
  deriving DecidableEq, Repr

/-- What a list of arguments asks for. -/
inductive Request
  /-- To do a task. -/
  | run (invocation : Invocation)
  /-- To name the version. -/
  | version
  /-- To explain the usage. -/
  | help
  /-- Nothing that can be done. -/
  | misuse
  deriving DecidableEq, Repr

namespace CommandLine

/-- The commands. -/
inductive Command
  | chat
  | demo
  | annotate
  | config
  deriving DecidableEq, Repr

/-- The options. -/
inductive Choice
  | settings
  | verbose
  | plain
  | version
  | help
  | layout
  | writeNew
  deriving DecidableEq, Repr

/-- The options that are given on one side of the command. -/
structure Given where
  /-- The file with the settings. -/
  settingsPath : Option Text := none
  /-- Whether diagnostics are asked for. -/
  verbose : Bool := false
  /-- Whether colours are refused. -/
  plain : Bool := false
  /-- How the explanation is laid out. -/
  layout : Option Layout := none
  /-- Whether a file with the default settings is asked for. -/
  writeNew : Bool := false
  /-- The file with the snippet. -/
  path : Option Text := none
  deriving DecidableEq, Repr

/-- Whether an option is known in front of the command (`none`) or behind one. -/
def allows : Option Command → Choice → Bool
  | _, .settings | _, .verbose | _, .plain | _, .help => true
  | side, .version => side.isNone
  | side, .layout => side = some .annotate
  | side, .writeNew => side = some .config

/-- The option with a long name. -/
def longChoice? (name : Text) : Option Choice :=
  if name = "config".toList then some .settings
  else if name = "verbose".toList then some .verbose
  else if name = "no-color".toList then some .plain
  else if name = "version".toList then some .version
  else if name = "help".toList then some .help
  else if name = "format".toList then some .layout
  else if name = "init".toList then some .writeNew
  else none

/-- The option with a short name. -/
def shortChoice? (name : Char) : Option Choice :=
  if name = 'c' then some .settings
  else if name = 'v' then some .verbose
  else if name = 'V' then some .version
  else if name = 'h' then some .help
  else if name = 'f' then some .layout
  else none

/-- Whether the option has a value. -/
def Choice.hasValue : Choice → Bool
  | .settings | .layout => true
  | _ => false

/-- The command with a name. -/
def command? (name : Text) : Option Command :=
  if name = "chat".toList then some .chat
  else if name = "demo".toList then some .demo
  else if name = "annotate".toList then some .annotate
  else if name = "config".toList then some .config
  else none

/-- The layout with a name. -/
def layout? (name : Text) : Option Layout :=
  if name = "pretty".toList then some .pretty
  else if name = "json".toList then some .json
  else none

/-- Takes an option without a value. -/
def setFlag (given : Given) : Choice → Except Request Given
  | .verbose => if given.verbose then .error .misuse else .ok { given with verbose := true }
  | .plain => if given.plain then .error .misuse else .ok { given with plain := true }
  | .writeNew => if given.writeNew then .error .misuse else .ok { given with writeNew := true }
  | .version => .error .version
  | .help => .error .help
  | .settings | .layout => .error .misuse

/-- Takes an option with its value. -/
def setValue (given : Given) (choice : Choice) (value : Text) : Except Request Given :=
  match choice with
  | .settings =>
    if value.isEmpty || given.settingsPath.isSome then .error .misuse
    else .ok { given with settingsPath := some value }
  | .layout =>
    match layout? value, given.layout with
    | some layout, none => .ok { given with layout := some layout }
    | _, _ => .error .misuse
  | _ => .error .misuse

/-- Takes the file with the snippet. -/
def setPath (side : Option Command) (given : Given) (path : Text) : Except Request Given :=
  if side = some .annotate && !path.isEmpty && given.path.isNone then
    .ok { given with path := some path }
  else .error .misuse

/-- Whether an argument stands for options, or ends them. -/
def looksLikeOption : Text → Bool
  | '-' :: _ :: _ => true
  | _ => false

/-- What an argument with short names comes to. -/
inductive Cluster
  /-- All of its options are taken. -/
  | done (given : Given)
  /-- Its last option has the next argument for its value. -/
  | waiting (given : Given) (choice : Choice)

/-- Takes options by their short names.  What follows the name of an option with a value is the
value, behind an equals sign or without one. -/
def readCluster (side : Option Command) (given : Given) : Text → Except Request Cluster
  | [] => .ok (.done given)
  | name :: later =>
    match (shortChoice? name).filter (allows side) with
    | none => .error .misuse
    | some choice =>
      if choice.hasValue then
        match later with
        | [] => .ok (.waiting given choice)
        | '=' :: value => (setValue given choice value).map .done
        | value => (setValue given choice value).map .done
      else do readCluster side (← setFlag given choice) later

/-- Takes an option by its long name, with its value behind an equals sign or in the next
argument. -/
def readLong (side : Option Command) (given : Given) (argument : Text) : Except Request Cluster :=
  let name := argument.takeWhile (· != '=')
  let value? := (argument.dropWhile (· != '=')).tail?
  match (longChoice? name).filter (allows side) with
  | none => .error .misuse
  | some choice =>
    match value?, choice.hasValue with
    | some value, true => (setValue given choice value).map .done
    | none, true => .ok (.waiting given choice)
    | none, false => (setFlag given choice).map .done
    | some _, false => .error .misuse

/-- Takes the options that an argument stands for. -/
def readOptions (side : Option Command) (given : Given) : Text → Except Request Cluster
  | '-' :: '-' :: argument => readLong side given argument
  | '-' :: names => readCluster side given names
  | _ => .error .misuse

/-- Takes arguments behind a command.  After two dashes no argument is an option. -/
def readBehind (command : Command) (onlyPaths : Bool) (given : Given) :
    List Text → Except Request Given
  | [] => .ok given
  | argument :: later =>
    if onlyPaths || !looksLikeOption argument then do
      readBehind command onlyPaths (← setPath (some command) given argument) later
    else if argument = "--".toList then readBehind command true given later
    else do
      match ← readOptions (some command) given argument with
      | .done given => readBehind command false given later
      | .waiting given choice =>
        match later with
        | [] => .error .misuse
        | value :: later =>
          if looksLikeOption value then .error .misuse
          else readBehind command false (← setValue given choice value) later

/-- The task of a command with its options. -/
def task (given : Given) : Command → Task
  | .chat => .chat
  | .demo => .demo
  | .annotate => .annotate given.path (given.layout.getD .pretty)
  | .config => .config given.writeNew

/-- The invocation of a command with the options on both sides of it. -/
def invocation (front behind : Given) (command : Command) : Invocation where
  settingsPath := behind.settingsPath.or front.settingsPath
  verbose := front.verbose || behind.verbose
  plain := front.plain || behind.plain
  task := task behind command

/-- The command that explains the usage, of the program or of a command. -/
def helpCommand : Text :=
  "help".toList

/-- Whether there is a command of the name, the one for help included. -/
def isCommand (name : Text) : Bool :=
  (command? name).isSome || name = helpCommand

/-- What the command for help asks for with the arguments behind it: at most one, the name of a
command.  No argument is an option there. -/
def helpOn : List Text → Request
  | [] => .help
  | [name] => if isCommand name then .help else .misuse
  | _ => .misuse

/-- Takes arguments up to the command, and those behind it.  Without a command a conversation is
held. -/
def readFront (given : Given) : List Text → Except Request Invocation
  | [] => .ok (invocation given {} .chat)
  | argument :: later =>
    match command? argument with
    | some command => (readBehind command false {} later).map (invocation given · command)
    | none =>
      if argument = helpCommand then .error (helpOn later)
      else if argument = "--".toList then
        if later.isEmpty then .ok (invocation given {} .chat) else .error .misuse
      else if !looksLikeOption argument then .error .misuse
      else do
        match ← readOptions none given argument with
        | .done given => readFront given later
        | .waiting given choice =>
          match later with
          | [] => .error .misuse
          | value :: later =>
            if looksLikeOption value then .error .misuse
            else readFront (← setValue given choice value) later

/-- What a list of arguments asks for. -/
def read (arguments : List Text) : Request :=
  match readFront {} arguments with
  | .ok invocation => .run invocation
  | .error request => request

end CommandLine
end CodeGloss
