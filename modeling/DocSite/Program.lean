import DocSite.Answer.Json
import DocSite.Answer.Text
import DocSite.Catalog.Collect
import DocSite.CommandLine.Invocation
import DocSite.Folder
import DocSite.Settings.Stored

/-!
# The program

* `Failure` lists why a run of the program prints no answer, with its message and exit code.
* `Command.answer` is what a command prints, given the settings and the documents.
* `run` runs a command line on a disk: its `Outcome` is the disk afterwards and what is printed.
-/

namespace DocSite

/-- Why a run prints no answer. -/
inductive Failure where
  | halt (h : Halt)
  | site (e : SiteError)
  | noDocument (slug : String)
  | noPage (number total : Nat)
  | unwritableSettings
deriving DecidableEq, Repr

namespace Failure

/-- The wording of a failure. -/
def message : Failure → String
  | halt h => h.message
  | site e => e.message
  | noDocument slug => "no document with slug '" ++ slug ++ "'"
  | noPage number total =>
    "page " ++ toString number ++ " out of range (1..=" ++ toString total ++ ")"
  | unwritableSettings => "a count of the settings is too great"

/-- The exit code of a failed run. A request for help or the version is no failure. -/
def exitCode : Failure → Nat
  | halt h => if h.isRequest then 0 else 2
  | _ => 1

/-- What a run prints that asks about the program itself. -/
def output : Failure → String
  | halt .help => Invocation.helpText
  | halt .version => Invocation.versionText
  | _ => ""

end Failure

/-! ### Commands -/

/-- The document with a slug. -/
def requireSlug (docs : List Document) (slug : String) : Except Failure Document :=
  match findBySlug docs slug with
  | some d => .ok d
  | none => .error (.noDocument slug)

/-- The answer to a question for a page of the listing. -/
def pageAnswer (s : Settings) (docs : List Document) (number : Nat) (json : Bool) :
    Except Failure String := do
  let pages ← (paginate docs s.listing.pageSize).mapError .site
  if pages.isEmpty then return "No documents found.\n"
  match (if number = 0 then none else pages[number - 1]?) with
  | none => throw (.noPage number pages.length)
  | some p =>
    if json then return (Answer.pageRows s.content.routePrefix p.items).pretty ++ "\n"
    else return Answer.ofLines (Answer.page s.content.routePrefix p)

/-- The answer to a question for related documents. -/
def relatedAnswer (s : Settings) (docs : List Document) (slug : String) (count : Option Nat)
    (json : Bool) : Except Failure String := do
  let query ← requireSlug docs slug
  let ranked := (rank query docs).take (count.getD s.listing.relatedCount)
  if json then return (Answer.relatedRows s.content.routePrefix ranked).pretty ++ "\n"
  else return Answer.ofLines (Answer.related s.content.routePrefix query ranked)

/-- What a command about documents prints. -/
def Command.answer (s : Settings) (docs : List Document) : Command → Except Failure String
  | .list number json => pageAnswer s docs number json
  | .related slug count json => relatedAnswer s docs slug count json
  | .describe slug => do
    let d ← requireSlug docs slug
    return Answer.ofLines (Answer.description s.content.routePrefix d (neighbours docs d))
  | .tags none => .ok (Answer.ofLines (Answer.tagIndex (tagIndex docs)))
  | .tags (some tag) =>
    .ok (Answer.ofLines (Answer.tagged s.content.routePrefix tag (withTag docs tag)))
  | .latest count =>
    .ok (Answer.ofLines (Answer.latest s.content.routePrefix
      (DocSite.latest docs (count.getD s.listing.latestCount))))
  | .storeSettings => .ok ""
  | .printSettings => .ok ""

/-! ### Runs -/

/-- The home directory, unless none is named. -/
def homeOf (environment : String → Option String) : Except SiteError String :=
  match environment "HOME" with
  | none => .error (.settings .noHome)
  | some home => if home.isEmpty then .error (.settings .noHome) else .ok home

/-- The settings of an invocation: those of its file, or those below the home directory, with what
the command line overrides. -/
def Invocation.settings (i : Invocation) (environment : String → Option String) (d : Disk) :
    Except SiteError Settings := do
  let s ← match i.settingsFile with
    | some path => Settings.load d path
    | none => (homeOf environment).bind (Settings.loadHome d)
  let dir := i.contentDir.getD s.content.dir
  ({ s with content := { s.content with dir } }).validate.mapError .settings

/-- The documents of a site. -/
def Settings.documents (s : Settings) (d : Disk) : Except SiteError (List Document) :=
  collect (.ofNames s.content.categoryOrder) (Folder.records d s.content.dir)

/-- What a run leaves behind: the disk, and what it prints. -/
structure Outcome where
  disk : Disk
  result : Except Failure String

namespace Invocation

/-- What an invocation prints that leaves the disk as it is. -/
def answer (i : Invocation) (environment : String → Option String) (d : Disk) :
    Except Failure String := do
  let s ← (i.settings environment d).mapError .site
  if i.command = .printSettings then
    match s.toml? with
    | some text => return text ++ "\n"
    | none => throw .unwritableSettings
  else
    let docs ← (s.documents d).mapError .site
    i.command.answer s docs

/-- Writes the default settings and says where they are. -/
def storeSettings (environment : String → Option String) (d : Disk) :
    Except SiteError (Disk × String) := do
  let home ← homeOf environment
  let d ← Settings.store d home
  return (d, "Config initialized at: " ++ Settings.homeFile home ++ "\n")

/-- Runs an invocation. -/
def run (i : Invocation) (environment : String → Option String) (d : Disk) : Outcome :=
  if i.command = .storeSettings then
    match storeSettings environment d with
    | .ok (d, text) => ⟨d, .ok text⟩
    | .error e => ⟨d, .error (.site e)⟩
  else ⟨d, i.answer environment d⟩

end Invocation

/-- Runs a command line. -/
def run (environment : String → Option String) (args : List String) (d : Disk) : Outcome :=
  match Invocation.ofArguments environment args with
  | .ok i => i.run environment d
  | .error h => ⟨d, .error (.halt h)⟩

end DocSite
