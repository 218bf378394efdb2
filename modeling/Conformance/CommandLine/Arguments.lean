import Conformance.Files.Path

/-!
# Arguments of the command line

Options of the program stand before the name of a command and those of the command after it;
`--json` may stand in both places. The value of an option is the next argument, or follows `=` or
the letter of the option.
-/
namespace Conformance.CommandLine

inductive Command where
  | audit (names : List String) (force : Bool)
  | status (names : List String)
  | checkTemplates
  | watch
  deriving DecidableEq, Repr

structure Invocation where
  settings : Path
  json : Bool
  command : Command
  deriving DecidableEq, Repr

/-- Where an argument stands: in front of the command, or after the name of one. -/
inductive Level where
  | program
  | audit
  | status
  | checkTemplates
  | watch
  deriving DecidableEq, Repr

inductive Switch where
  | config
  | json
  | device
  | force
  deriving DecidableEq, Repr

namespace Switch

def name : Switch → String
  | config => "config"
  | json => "json"
  | device => "device"
  | force => "force"

def letter? : Switch → Option Char
  | config => some 'c'
  | json => none
  | device => some 'd'
  | force => some 'f'

def takesValue : Switch → Bool
  | config | device => true
  | json | force => false

end Switch

namespace Level

def switches : Level → List Switch
  | program => [.config, .json]
  | audit => [.json, .device, .force]
  | status => [.json, .device]
  | checkTemplates | watch => [.json]

def ofName? (name : String) : Option Level :=
  match name with
  | "audit" => some audit
  | "status" => some status
  | "check-templates" => some checkTemplates
  | "watch" => some watch
  | _ => none

end Level

/-- What the options on one level say. -/
structure Choices where
  config : Option Path := none
  json : Bool := false
  names : List String := []
  force : Bool := false
  deriving DecidableEq, Repr

namespace Choices

/-- Takes an option into account. Only devices can be given more than once, and a file needs a
name. -/
def choose (c : Choices) (value : String) : Switch → Option Choices
  | .config => if c.config.isSome || value.isEmpty then none else some { c with config := value }
  | .json => if c.json then none else some { c with json := true }
  | .device => some { c with names := c.names ++ [value] }
  | .force => if c.force then none else some { c with force := true }

end Choices

/-- Whether an argument is an option, or the mark after which none follow. -/
def isOption (arg : String) : Bool :=
  arg.toList.head? == some '-' && arg != "-"

/-- Reads an option by its name, without the dashes. The option is given back if its value is still
to come. -/
def readName (level : Level) (c : Choices) (arg : List Char) :
    Option (Choices × Option Switch) := do
  let name := String.ofList (arg.takeWhile (· != '='))
  let switch ← level.switches.find? (·.name == name)
  match arg.dropWhile (· != '='), switch.takesValue with
  | _ :: value, true => return (← c.choose (String.ofList value) switch, none)
  | [], true => return (c, some switch)
  | [], false => return (← c.choose "" switch, none)
  | _ :: _, false => none

/-- Reads options by their letters. What follows the letter of an option with a value is the value.
-/
def readLetters (level : Level) (c : Choices) : List Char → Option (Choices × Option Switch)
  | [] => some (c, none)
  | letter :: rest => do
    let switch ← level.switches.find? (·.letter? == some letter)
    if switch.takesValue then
      match rest with
      | [] => return (c, some switch)
      | '=' :: value => return (← c.choose (String.ofList value) switch, none)
      | value => return (← c.choose (String.ofList value) switch, none)
    else readLetters level (← c.choose "" switch) rest

def readOption (level : Level) (c : Choices) (arg : String) : Option (Choices × Option Switch) :=
  match arg.toList with
  | '-' :: '-' :: name => readName level c name
  | _ :: letters => readLetters level c letters
  | [] => none

/-- Reads options up to the first argument that is none. The option in `pending` waits for its
value. -/
def readOptions (level : Level) (c : Choices) (pending : Option Switch) :
    List String → Option (Choices × List String)
  | [] => if pending.isSome then none else some (c, [])
  | arg :: args =>
    match pending with
    | some switch =>
      if isOption arg then none
      else do readOptions level (← c.choose arg switch) none args
    | none =>
      if arg == "--" then if level == .program then none else some (c, args)
      else if isOption arg then do
        let (c, pending) ← readOption level c arg
        readOptions level c pending args
      else some (c, arg :: args)

/-- The command of a level. -/
def Level.command? (c : Choices) : Level → Option Command
  | program => none
  | audit => some (.audit c.names c.force)
  | status => some (.status c.names)
  | checkTemplates => some .checkTemplates
  | watch => some .watch

def Invocation.parse? (args : List String) : Option Invocation :=
  match readOptions .program {} none args with
  | some (c, name :: rest) => do
    let level ← Level.ofName? name
    match ← readOptions level {} none rest with
    | (d, []) => return ⟨c.config.getD "audit.toml", c.json || d.json, ← level.command? d⟩
    | _ => none
  | _ => none

end Conformance.CommandLine
