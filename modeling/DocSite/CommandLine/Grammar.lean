import DocSite.CommandLine.Halt
import DocSite.Text.Digit

/-!
# Grammars of command lines

A command line names a command, perhaps one of a group of commands, and gives parameters by name and
operands by position.

* `Parameter` says how a parameter is given and what it does; `ValueKind.read` reads its value.
* `Grammar` is the shape of a command or of a group of commands.
* `Grammar.helpOn` answers a question for help on a command.
-/

namespace DocSite

/-! ### Parameters -/

/-- What values a parameter takes. -/
inductive ValueKind where
  /-- A text that is not empty. -/
  | path
  /-- A number below `2^64`. -/
  | count
  /-- One of some words. -/
  | oneOf (words : List String)
deriving DecidableEq, Repr

/-- What a parameter does. -/
inductive Effect where
  | help
  | version
  /-- Turns something on; it is given once at most. -/
  | turnOn
  /-- Counts how often it is given. -/
  | tally
  /-- Takes a value; it is given once at most. -/
  | take (kind : ValueKind)
deriving DecidableEq, Repr

/-- The value of a parameter that is given. -/
inductive Value where
  | on
  | text (s : String)
  | count (n : Nat)
deriving DecidableEq, Repr

/-- A parameter with its name after two dashes, its letter after one and the environment variable
that stands in for it. -/
structure Parameter where
  name : String
  letter : Option Char := none
  effect : Effect
  environment : Option String := none
deriving DecidableEq, Repr

/-- The number of a text of decimal digits, which a plus sign may precede. -/
def readCount? (s : String) : Option Nat :=
  let digits := if s.toList.head? = some '+' then s.toList.drop 1 else s.toList
  let n := Text.numberOf 10 digits
  if !digits.isEmpty && digits.all Char.isDigit && n < Nat.pow 2 64 then some n else none

namespace Parameter

/-- The value of a parameter as it is written. -/
def read (p : Parameter) (kind : ValueKind) (text : String) : Except Halt Value :=
  match kind with
  | .path => if text.isEmpty then .error (.notAllowed p.name text) else .ok (.text text)
  | .count => ((readCount? text).map .count).elim (.error (.notCount p.name text)) .ok
  | .oneOf words =>
    if words.contains text then .ok (.text text) else .error (.notAllowed p.name text)

end Parameter

/-! ### Commands -/

/-- An operand of a command. -/
structure Operand where
  name : String
  required : Bool := true
deriving DecidableEq, Repr

/-- The shape of a command, or of a group of commands with their names. -/
inductive Grammar where
  | leaf (parameters : List Parameter) (operands : List Operand)
  | group (parameters : List Parameter) (commands : List (String × Grammar))

namespace Grammar

/-- The name of the command that every group has: it gives help on the others. -/
def helpName : String :=
  "help"

/-- The parameters. -/
def parameters : Grammar → List Parameter
  | leaf parameters _ => parameters
  | group parameters _ => parameters

/-- The operands. A group has none. -/
def operands : Grammar → List Operand
  | leaf _ operands => operands
  | group .. => []

/-- Whether this is a group. -/
def isGroup : Grammar → Bool
  | leaf .. => false
  | group .. => true

/-- The command of a group with a name. -/
def child? (name : String) : Grammar → Option Grammar
  | leaf .. => none
  | group _ commands =>
    if name = helpName then some (leaf [] []) else commands.lookup name

/-- The parameter with a name. -/
def named? (g : Grammar) (name : String) : Option Parameter :=
  g.parameters.find? (·.name == name)

/-- The parameter with a letter. -/
def lettered? (g : Grammar) (c : Char) : Option Parameter :=
  g.parameters.find? (·.letter == some c)

/-- The answer to a question for help on the command that some names lead to. -/
def helpOn (g : Grammar) : List String → Halt
  | [] => .help
  | name :: rest =>
    match g.child? name with
    | some child => helpOn child rest
    | none => .unknownCommand name

end Grammar

end DocSite
