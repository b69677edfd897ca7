/-!
# Why no command is run

* `Halt` lists why arguments lead to no command: they ask about the program itself, or they are
  refused.
* `Halt.message` is the wording of each, and `Halt.isRequest` tells the two kinds apart.
-/

namespace DocSite

/-- Why arguments lead to no command. -/
inductive Halt where
  /-- The help text is asked for. -/
  | help
  /-- The version is asked for. -/
  | version
  /-- No argument says anything where a command has to be named. -/
  | nothingGiven
  /-- Some parameters are given, but no command is named. -/
  | noCommand
  | unknownCommand (text : String)
  | unknownArgument (text : String)
  | noValue (name : String)
  | notAllowed (name text : String)
  | notCount (name text : String)
  | surplusValue (name : String)
  | repeated (name : String)
  | noOperand (name : String)
deriving DecidableEq, Repr

namespace Halt

/-- Whether the arguments ask about the program itself. -/
def isRequest : Halt → Bool
  | help => true
  | version => true
  | _ => false

/-- The wording of a halt. -/
def message : Halt → String
  | help => "help is asked for"
  | version => "the version is asked for"
  | nothingGiven => "a command has to be named"
  | noCommand => "a command has to be named after the parameters"
  | unknownCommand text => "there is no command '" ++ text ++ "'"
  | unknownArgument text => "the argument '" ++ text ++ "' is not expected"
  | noValue name => "the parameter '--" ++ name ++ "' needs a value"
  | notAllowed name text => "the value '" ++ text ++ "' is not allowed for '--" ++ name ++ "'"
  | notCount name text => "the value '" ++ text ++ "' for '--" ++ name ++ "' is no count"
  | surplusValue name => "the parameter '--" ++ name ++ "' takes no value"
  | repeated name => "the parameter '--" ++ name ++ "' is given more than once"
  | noOperand name => "the argument <" ++ name ++ "> is missing"

end Halt

end DocSite
