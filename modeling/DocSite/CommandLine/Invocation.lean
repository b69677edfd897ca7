import DocSite.CommandLine.Reading

/-!
# Invocations

* `Command` is what the program can be asked to do, and `Invocation` a command with the settings
  that the command line overrides.
* `Invocation.grammar` is the shape of the command line, and `Invocation.ofArguments` reads one.
-/

namespace DocSite

/-- What the program does. -/
inductive Command where
  /-- Lists a page of the documents. -/
  | list (page : Nat) (json : Bool)
  /-- Lists the documents most related to one. -/
  | related (slug : String) (count : Option Nat) (json : Bool)
  /-- Describes a document and its neighbours. -/
  | describe (slug : String)
  /-- Lists the tags, or the documents with one tag. -/
  | tags (tag : Option String)
  /-- Lists the newest documents. -/
  | latest (count : Option Nat)
  /-- Writes the default settings. -/
  | storeSettings
  /-- Prints the settings. -/
  | printSettings
deriving DecidableEq, Repr

/-- A command with the settings that its command line overrides. -/
structure Invocation where
  settingsFile : Option String := none
  contentDir : Option String := none
  command : Command
deriving DecidableEq, Repr

namespace Invocation

/-- The parameter that asks for help. Every command has it. -/
def helpParameter : Parameter :=
  { name := "help", letter := some 'h', effect := .help }

/-- The parameters of all commands. -/
def sharedParameters : List Parameter :=
  [{ name := "log-format", effect := .take (.oneOf ["text", "json"]) },
    { name := "verbose", letter := some 'v', effect := .tally },
    { name := "config", effect := .take .path, environment := some "DOCRANK_CONFIG" },
    { name := "dir", letter := some 'd', effect := .take .path,
      environment := some "DOCRANK_CONTENT_DIR" },
    helpParameter]

/-- A command with parameters and operands of its own. -/
def leaf (own : List Parameter) (operands : List Operand) : Grammar :=
  .leaf (own ++ sharedParameters) operands

/-- The parameter for the output in JSON. -/
def jsonParameter : Parameter :=
  { name := "json", effect := .turnOn }

/-- The parameter for the length of a list. -/
def countParameter : Parameter :=
  { name := "count", letter := some 'n', effect := .take .count }

/-- The shape of the command line. -/
def grammar : Grammar :=
  .group ({ name := "version", letter := some 'V', effect := .version } :: sharedParameters)
    [("list", leaf [{ name := "page", effect := .take .count }, jsonParameter] []),
      ("related", leaf [countParameter, jsonParameter] [{ name := "SLUG" }]),
      ("show", leaf [] [{ name := "SLUG" }]),
      ("tags", leaf [] [{ name := "TAG", required := false }]),
      ("latest", leaf [countParameter] []),
      ("config", .group sharedParameters [("init", leaf [] []), ("show", leaf [] [])])]

/-- The name and version of the program. -/
def versionText : String :=
  "docrank 0.1.0\n"

/-- How the program is used. -/
def helpText : String :=
  "Category-ordered listings and related-content ranking for markdown documentation.\n\n"
    ++ "Usage: docrank [OPTIONS] <COMMAND>\n\n"
    ++ "Commands:\n"
    ++ "  list [--page <PAGE>] [--json]            list documents by category, then title\n"
    ++ "  related <SLUG> [-n <COUNT>] [--json]     list the documents most related to one\n"
    ++ "  show <SLUG>                              show one document with its neighbours\n"
    ++ "  tags [TAG]                               list tags, or the documents with one tag\n"
    ++ "  latest [-n <COUNT>]                      list the newest dated documents\n"
    ++ "  config init                              write the default settings\n"
    ++ "  config show                              print the settings\n"
    ++ "  help [COMMAND]...                        print this text\n\n"
    ++ "Options:\n"
    ++ "  --log-format <FORMAT>                    text or json\n"
    ++ "  -v, --verbose                            log more; may be repeated\n"
    ++ "  --config <FILE>                          the settings file\n"
    ++ "  -d, --dir <DIR>                          the content directory\n"
    ++ "  -h, --help                               print this text\n"
    ++ "  -V, --version                            print the version\n"

/-- The command that arguments name. -/
def commandOf? (r : Reading) : Option Command :=
  match r.path, r.operands with
  | ["list"], _ => some (.list ((r.count? "page").getD 1) (r.isOn "json"))
  | ["related"], slug :: _ => some (.related slug (r.count? "count") (r.isOn "json"))
  | ["show"], slug :: _ => some (.describe slug)
  | ["tags"], operands => some (.tags operands.head?)
  | ["latest"], _ => some (.latest (r.count? "count"))
  | ["config", "init"], _ => some .storeSettings
  | ["config", "show"], _ => some .printSettings
  | _, _ => none

/-- The invocation of a command line in an environment. -/
def ofArguments (environment : String → Option String) (args : List String) :
    Except Halt Invocation := do
  let r ← grammar.read environment args
  match commandOf? r with
  | some command => return ⟨r.text? "config", r.text? "dir", command⟩
  | none => throw .noCommand

end Invocation

end DocSite
