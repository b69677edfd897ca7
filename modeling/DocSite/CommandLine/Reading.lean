import DocSite.CommandLine.Grammar

/-!
# Reading a command line

* `Progress` is what is known after some arguments of one command. A value that stands in an
  argument of its own is checked only when the next parameter or operand comes, or at the end.
* `Progress.step` takes one argument, and `Progress.finish` closes a command: environment variables
  stand in for parameters that were not given, and what is required has to be there.
* `Grammar.read` reads all arguments. The rest after the name of a command is read and closed first.
-/

namespace DocSite

/-- What arguments say: the names of the commands, the values that are given from the innermost
command outwards, those that environment variables give, and the operands. -/
structure Reading where
  path : List String := []
  given : List (String × Value) := []
  inherited : List (String × Value) := []
  operands : List String := []
deriving DecidableEq, Repr

namespace Reading

/-- The value of a parameter. What is given counts before what the environment says. -/
def value? (r : Reading) (name : String) : Option Value :=
  r.given.lookup name <|> r.inherited.lookup name

/-- Whether a parameter is turned on. -/
def isOn (r : Reading) (name : String) : Bool :=
  r.value? name == some .on

/-- The text that a parameter takes. -/
def text? (r : Reading) (name : String) : Option String :=
  match r.value? name with
  | some (.text s) => some s
  | _ => none

/-- The count that a parameter takes. -/
def count? (r : Reading) (name : String) : Option Nat :=
  match r.value? name with
  | some (.count n) => some n
  | _ => none

end Reading

/-- What is known after some arguments of a command. -/
structure Progress where
  /-- The parameters that are given, with their values. -/
  given : List (String × Value) := []
  /-- A parameter whose value is still to come, or still to be checked. -/
  awaited : Option (Parameter × ValueKind × Option String) := none
  operands : List String := []
  /-- Whether all that follows are operands. -/
  onlyOperands : Bool := false

namespace Progress

/-- Whether a parameter is given. -/
def has (p : Progress) (name : String) : Bool :=
  (p.given.lookup name).isSome

/-- Adds the value of a parameter that takes one. -/
def store (p : Progress) (parameter : Parameter) (kind : ValueKind) (text : String) :
    Except Halt Progress :=
  if p.has parameter.name then .error (.repeated parameter.name)
  else (parameter.read kind text).map fun v => { p with given := p.given ++ [(parameter.name, v)] }

/-- Checks the value that is still to be checked. -/
def settle (p : Progress) : Except Halt Progress :=
  match p.awaited with
  | none => .ok p
  | some (parameter, _, none) => .error (.noValue parameter.name)
  | some (parameter, kind, some text) => { p with awaited := none }.store parameter kind text

/-- Whether the next argument is the value of a parameter. -/
def awaits (p : Progress) : Bool :=
  match p.awaited with
  | some (_, _, none) => true
  | _ => false

/-- Takes a parameter with the value that is written in the same argument, if any. -/
def take (p : Progress) (parameter : Parameter) (kind : ValueKind) (attached : Option String) :
    Except Halt Progress := do
  let p ← p.settle
  match attached with
  | some text => p.store parameter kind text
  | none => return { p with awaited := some (parameter, kind, none) }

/-- Takes a parameter without a value. -/
def turnOn (p : Progress) (parameter : Parameter) : Except Halt Progress := do
  let p ← p.settle
  if p.has parameter.name then throw (.repeated parameter.name)
  return { p with given := p.given ++ [(parameter.name, .on)] }

/-- Takes a parameter that is counted. -/
def tally (p : Progress) (parameter : Parameter) : Except Halt Progress := do
  let p ← p.settle
  return { p with given := p.given ++ [(parameter.name, .on)] }

/-- Answers a request. -/
def request (p : Progress) (h : Halt) : Except Halt Progress := do
  let _ ← p.settle
  throw h

/-- Takes a parameter by its name, with the value after an equals sign, if any. -/
def byName (p : Progress) (g : Grammar) (name : String) (attached : Option String) :
    Except Halt Progress :=
  match g.named? name with
  | none => .error (.unknownArgument ("--" ++ name))
  | some parameter =>
    match parameter.effect, attached with
    | .take kind, _ => p.take parameter kind attached
    | _, some _ => .error (.surplusValue name)
    | .help, none => p.request .help
    | .version, none => p.request .version
    | .turnOn, none => p.turnOn parameter
    | .tally, none => p.tally parameter

/-- Takes parameters by their letters. What follows the letter of one that takes a value is that
value; an equals sign may stand between them. -/
def byLetters (g : Grammar) (p : Progress) : List Char → Except Halt Progress
  | [] => .ok p
  | c :: rest =>
    match g.lettered? c with
    | none => .error (.unknownArgument (String.ofList ['-', c]))
    | some parameter =>
      match parameter.effect with
      | .take kind =>
        let text := if rest.head? = some '=' then rest.drop 1 else rest
        p.take parameter kind (if rest.isEmpty then none else some (String.ofList text))
      | .help => p.request .help
      | .version => p.request .version
      | .turnOn => (p.turnOn parameter).bind fun p => byLetters g p rest
      | .tally => (p.tally parameter).bind fun p => byLetters g p rest

/-- Takes an operand. Where no operand is expected, a group expects the name of a command. -/
def operand (p : Progress) (g : Grammar) (arg : String) : Except Halt Progress :=
  if p.operands.length < g.operands.length then
    p.settle.map fun p => { p with operands := p.operands ++ [arg] }
  else if g.isGroup && !(p.onlyOperands && (g.child? arg).isSome) then .error (.unknownCommand arg)
  else .error (.unknownArgument arg)

/-- A name and what follows the first equals sign. -/
def splitName (s : List Char) : String × Option String :=
  let name := String.ofList (s.takeWhile (· != '='))
  match s.dropWhile (· != '=') with
  | [] => (name, none)
  | _ :: value => (name, some (String.ofList value))

/-- Takes one argument that names no command. -/
def step (p : Progress) (g : Grammar) (arg : String) : Except Halt Progress :=
  if p.onlyOperands then p.operand g arg
  else if arg = "--" then .ok { p with onlyOperands := true }
  else
    match arg.toList with
    | '-' :: '-' :: rest =>
      let (name, attached) := splitName rest
      p.byName g name attached
    | '-' :: c :: rest => byLetters g p (c :: rest)
    | _ =>
      match p.awaited with
      | some (parameter, kind, none) => .ok { p with awaited := some (parameter, kind, some arg) }
      | _ => p.operand g arg

/-- The command that an argument names. -/
def command? (p : Progress) (g : Grammar) (arg : String) : Option Grammar :=
  if p.onlyOperands || p.awaits then none else g.child? arg

/-- The value of a parameter that an environment variable gives, unless the parameter is given. -/
def inherited (p : Progress) (environment : String → Option String) (parameter : Parameter) :
    Except Halt (Option (String × Value)) :=
  match parameter.effect, parameter.environment.bind environment with
  | .take kind, some text =>
    if p.has parameter.name then .ok none
    else (parameter.read kind text).map fun v => some (parameter.name, v)
  | _, _ => .ok none

/-- Closes a command, given the reading of the command below it, if one is named. -/
def finish (p : Progress) (environment : String → Option String) (g : Grammar)
    (inner : Option (String × Reading)) : Except Halt Reading := do
  let p ← p.settle
  let inherited := (← g.parameters.mapM (p.inherited environment)).filterMap id
  match inner with
  | some (name, r) =>
    return { r with
      path := name :: r.path
      given := r.given ++ p.given
      inherited := r.inherited ++ inherited }
  | none =>
    if g.isGroup then
      throw (if p.given.isEmpty && inherited.isEmpty then .nothingGiven else .noCommand)
    match (g.operands.drop p.operands.length).find? (·.required) with
    | some operand => throw (.noOperand operand.name)
    | none => return ⟨[], p.given, inherited, p.operands⟩

end Progress

namespace Grammar

/-- Reads arguments from where some of a command's arguments are known. -/
def readFrom (environment : String → Option String) (g : Grammar) (p : Progress) :
    List String → Except Halt Reading
  | [] => p.finish environment g none
  | arg :: rest =>
    match p.command? g arg with
    | some child =>
      if arg = helpName then .error (g.helpOn rest)
      else (readFrom environment child {} rest).bind fun r => p.finish environment g (some (arg, r))
    | none => (p.step g arg).bind fun p => readFrom environment g p rest

/-- Reads arguments. -/
def read (g : Grammar) (environment : String → Option String) (args : List String) :
    Except Halt Reading :=
  readFrom environment g {} args

end Grammar

end DocSite
