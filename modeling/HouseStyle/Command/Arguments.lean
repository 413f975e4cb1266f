import HouseStyle.Text.Case

/-!
# Arguments of the command line

`Request.ofArguments` reads the arguments of a call. Options in front of the name of a task belong to the
tool, options behind it to the task; behind `--` nothing is an option. A request for help or for
the version counts even if the rest of the call would be refused later. This reader of the command line stands
for one that the tool takes from elsewhere: what is assumed of that one is written here, and which paths it lets
pass in `HouseStyle.Command.existing?`.

Main definitions:
* `Task`, `Request`: what a call asks for.
* `readArguments`: the options and the other arguments of a list.
* `Request.ofArguments`: the request of a call.
-/

namespace HouseStyle.Command

/-! ## Requests -/

/-- How violations and rules are written. -/
inductive Format where
  | terminal | json
deriving Repr, DecidableEq

/-- The format of a word, in any case and with blanks around it. -/
def Format.ofText? (t : Text) : Option Format :=
  let word := t.strip.lowerAscii
  if word = "terminal".toList then some .terminal
  else if word = "json".toList then some .json
  else none

/-- How much is logged. -/
inductive Verbosity where
  | verbose | normal | quiet
deriving Repr, DecidableEq

/-- What the tool is asked to do. A format may be unknown. -/
inductive Task where
  | check (paths : List Text) (format : Option Format)
  | fix (paths : List Text) (dryRun : Bool)
  | rules (path : Text) (format : Option Format)
deriving Repr, DecidableEq

/-- What a call asks for. -/
inductive Request where
  | version
  | help
  /-- A call without arguments. -/
  | nothing
  /-- A call that cannot be understood. -/
  | misuse
  | run (verbosity : Verbosity) (task : Task)
deriving Repr, DecidableEq

/-! ## Options -/

/-- An option with its spellings. -/
structure OptionName where
  key : Text
  spellings : List Text
  takesValue : Bool := false
deriving Repr, DecidableEq

/-- An option that was given, with its value if it takes one. -/
abbrev Given := Text × Text

/-- The option of a spelling. -/
def option? (options : List OptionName) (spelling : Text) : Option OptionName :=
  options.find? fun o => o.spellings.contains spelling

/-- The options behind a single dash, one letter each. None of them takes a value. -/
def letterOptions (options : List OptionName) : Text → Option (List Given)
  | [] => some []
  | c :: t => do
    let o ← option? options ['-', c]
    if o.takesValue then none else return (o.key, []) :: (← letterOptions options t)

/-- An argument that starts with a dash and goes on is an option. -/
def isOption : Text → Bool
  | '-' :: _ :: _ => true
  | _ => false

/-- What an argument says as an option. -/
inductive Reading where
  | given (options : List Given)
  /-- The value of the option is the next argument. -/
  | needsValue (key : Text)
  | unknown
deriving Repr, DecidableEq

/-- Reads an argument as an option. -/
def readOption (options : List OptionName) (argument : Text) : Reading :=
  match argument with
  | '-' :: '-' :: _ =>
    match option? options (argument.takeWhile (· ≠ '=')), argument.dropWhile (· ≠ '=') with
    | none, _ => .unknown
    | some o, [] => if o.takesValue then .needsValue o.key else .given [(o.key, [])]
    | some o, _ :: value => if o.takesValue then .given [(o.key, value)] else .unknown
  | '-' :: letters =>
    match letterOptions options letters with
    | some os => .given os
    | none => .unknown
  | _ => .unknown

/-- The options and the other arguments of a list, both in order. Unless they are `mixed`, the first
    argument that is no option ends the options. -/
def readArguments (options : List OptionName) (mixed : Bool) :
    List Text → Option (List Given × List Text)
  | [] => some ([], [])
  | [a] =>
    if a = "--".toList then some ([], [])
    else if isOption a then
      match readOption options a with
      | .given os => some (os, [])
      | _ => none
    else some ([], [a])
  | a :: b :: rest =>
    if a = "--".toList then some ([], b :: rest)
    else if isOption a then
      match readOption options a with
      | .given os => (readArguments options mixed (b :: rest)).map fun r => (os ++ r.1, r.2)
      | .needsValue key => (readArguments options mixed rest).map fun r => ((key, b) :: r.1, r.2)
      | .unknown => none
    else if mixed then (readArguments options mixed (b :: rest)).map fun r => (r.1, a :: r.2)
    else some ([], a :: b :: rest)

/-- The option was given. -/
def has (given : List Given) (key : Text) : Bool := given.any (·.1 = key)

/-- The value of an option that was given; the last one counts. -/
def valueOf? (given : List Given) (key : Text) : Option Text := given.reverse.lookup key

/-! ## The options of the tool and of its tasks -/

/-- The option that asks for help. -/
def helpOption : OptionName := ⟨"help", ["--help".toList], false⟩

/-- The option that chooses a format. -/
def formatOption : OptionName := ⟨"format", ["--format".toList], true⟩

/-- The options in front of a task. -/
def toolOptions : List OptionName :=
  [⟨"version", ["--version".toList], false⟩, ⟨"verbose", ["--verbose".toList, "-v".toList], false⟩,
    ⟨"quiet", ["--quiet".toList, "-q".toList], false⟩, helpOption]

/-- The format that was given; the default is the terminal. -/
def givenFormat (given : List Given) : Option Format :=
  match valueOf? given "format" with
  | some t => Format.ofText? t
  | none => some .terminal

/-- The options of a task, by its name. -/
def taskOptions? (name : Text) : Option (List OptionName) :=
  if name = "check".toList then some [formatOption, helpOption]
  else if name = "fix".toList then some [⟨"dry-run", ["--dry-run".toList], false⟩, helpOption]
  else if name = "rules".toList then some [formatOption, helpOption]
  else none

/-- The task of a name with its options and arguments. The first two tasks need a path, and the last
    one takes at most one. -/
def task? (name : Text) (given : List Given) (paths : List Text) : Option Task :=
  if name = "rules".toList then
    match paths with
    | [] => some (.rules "." (givenFormat given))
    | [p] => some (.rules p (givenFormat given))
    | _ => none
  else if paths.isEmpty then none
  else if name = "check".toList then some (.check paths (givenFormat given))
  else some (.fix paths (has given "dry-run"))

namespace Request

/-- The request of a task. -/
def ofTask (verbosity : Verbosity) (name : Text) (arguments : List Text) : Request :=
  match taskOptions? name with
  | none => .misuse
  | some options =>
    match readArguments options true arguments with
    | none => .misuse
    | some (given, paths) =>
      if has given "help" then .help
      else
        match task? name given paths with
        | some task => .run verbosity task
        | none => .misuse

/-- The first option that asks for help or for the version. -/
def eager? (given : List Given) : Option Request :=
  given.findSome? fun g =>
    if g.1 = "version".toList then some .version
    else if g.1 = "help".toList then some .help
    else none

/-- The request of a call. -/
def ofArguments : List Text → Request
  | [] => .nothing
  | arguments =>
    match readArguments toolOptions false arguments with
    | none => .misuse
    | some (given, rest) =>
      match eager? given, rest with
      | some r, _ => r
      | none, [] => .misuse
      | none, name :: others =>
        if has given "verbose" && has given "quiet" then .misuse
        else
          ofTask (if has given "verbose" then .verbose else if has given "quiet" then .quiet else .normal)
            name others

end Request

end HouseStyle.Command
