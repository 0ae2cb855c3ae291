import TileTriggers.Map.Edit
import TileTriggers.Map.File
import TileTriggers.Tool.Invocation
import TileTriggers.Tool.Report
import TileTriggers.Tool.Settings

/-!
# Commands

What the program does with maps and listings: check a listing, make a blank map,
describe a map, and replace the scripts of a map. Each command is a function from
a workspace to a report.

A command that changes a map reads all it needs, computes the whole new file and
writes it last. Whatever goes wrong before that leaves every file as it was.

## Main definitions

* `Workspace.loadMap`, `Workspace.saveMap`: Maps in files.
* `Command.execute`: What a command does.
* `Invocation.execute`: A run, settings included.
-/

namespace TileTriggers

namespace Workspace

/-- The document of a map file, or why there is none. -/
def loadMap (w : Workspace) (path : String) : Except (List String) (Logged Document) :=
  match w.read path with
  | .error error => .error [error.message]
  | .ok bytes => (Document.load bytes).mapError MapError.chain

/-- The workspace with a document in a map file, and the events of saving it. -/
def saveMap (w : Workspace) (path : String) (d : Document) :
    List Event × Except (List String) Workspace :=
  match d.save with
  | .error error => ([], .error error.chain)
  | .ok saved =>
    (saved.log, (w.write path saved.value).mapError fun error => [error.message])

end Workspace

namespace Command

/-- A text set to the right of a field of some width. -/
def rightAligned (width : Nat) (text : String) : String :=
  String.ofList (List.replicate (width - text.length) ' ') ++ text

/-- What is printed about a line of a listing. -/
def describeLine (verbose : Bool) (r : LineReport) : List String :=
  let label := rightAligned 4 (toString r.number) ++ ": "
  match r.result with
  | .ok script => if verbose then [label ++ script.text] else []
  | .error error =>
    [label ++ error.message, "      " ++ String.ofList (Text.trim r.text.toList)]

/-- Compiles a listing and reports its mistakes. Blank lines are passed over. -/
def checkListing (w : Workspace) (listing : String) (verbose : Bool) : Report :=
  match w.readText listing with
  | .error error => .failed [] ["reading " ++ listing, error.message] w
  | .ok text =>
    let reports := (compileListing text).filter fun r => !r.isBlank
    let valid := (reports.filterMap LineReport.script?).length
    let invalid := reports.length - valid
    { printed := reports.flatMap (describeLine verbose) ++
        [toString valid ++ " valid, " ++ toString invalid ++ " invalid"]
      records := []
      failure :=
        if invalid = 0 then [] else [listing ++ " has " ++ toString invalid ++ " invalid lines"]
      workspace := w }

/-- Writes a blank map. A file that is there is only replaced by force. -/
def newMap (w : Workspace) (settings : Settings) (map : String) (width height : Option Nat)
    (force : Bool) : Report :=
  if w.pathExists map && !force then
    .failed [] [map ++ " already exists, pass --force to overwrite"] w
  else
    let width := width.getD settings.defaultWidth
    let height := height.getD settings.defaultHeight
    match Document.new width height with
    | .error error => .failed [] [error.message] w
    | .ok d =>
      match w.saveMap map d with
      | (events, .error chain) => .failed (events.map Event.record) (("writing " ++ map) :: chain) w
      | (events, .ok written) =>
        .success ["Created " ++ toString width ++ "x" ++ toString height ++ " map " ++ map]
          (events.map Event.record) written

/-- The line about a tile with an object on it. -/
def describeObject : Nat × Nat × Tile → Option String
  | (x, y, t) => t.object.map fun o =>
    "    \x7b" ++ toString x ++ "." ++ toString y ++ "\x7d " ++ o.kind.keyword ++
      " #" ++ toString o.id.toNat ++ " on " ++ t.background.keyword

/-- What is printed about a map. -/
def describeMap (map : String) (objects : Bool) (d : Document) : List String :=
  let ids := d.ids.used.toList.map fun id => toString id.toNat
  [map,
    "  Size: " ++ toString d.grid.width ++ "x" ++ toString d.grid.height,
    "  Objects: " ++ toString d.grid.objectIds.length,
    "  Ids in use (" ++ toString ids.length ++ "): " ++ ", ".intercalate ids] ++
  (if objects then d.grid.cells.filterMap describeObject else []) ++
  ("  Scripts (" ++ toString d.scripts.length ++ "):") ::
    d.scripts.map (fun script => "    " ++ script.text) ++
  if d.warnings.isEmpty then []
  else "  Warnings:" :: d.warnings.map fun warning => "    " ++ warning.message

/-- Describes a map. -/
def dumpMap (w : Workspace) (map : String) (objects : Bool) : Report :=
  match w.loadMap map with
  | .error chain => .failed [] (("loading " ++ map) :: chain) w
  | .ok d => .success (describeMap map objects d.value) (d.log.map Event.record) w

/-- The records about the lines of a listing that are no scripts. -/
def skipped (listing : String) (r : LineReport) : Option Record :=
  match r.result with
  | .ok _ => none
  | .error error =>
    if r.isBlank then none
    else some ⟨.warn, "raymap::scripts",
      listing ++ ":" ++ toString r.number ++ ": skipped, " ++ error.message⟩

/-- Replaces the scripts of a map by those of a listing. -/
def storeScripts (w : Workspace) (map listing : String) : Report :=
  match w.loadMap map with
  | .error chain => .failed [] (("loading " ++ map) :: chain) w
  | .ok loaded =>
    let loadedRecords := loaded.log.map Event.record
    match w.readText listing with
    | .error error => .failed loadedRecords ["reading " ++ listing, error.message] w
    | .ok text =>
      let edited := loaded.value.setScriptText text
      let d := edited.value
      let records := loadedRecords ++ edited.log.map Event.record ++
        d.lines.filterMap (skipped listing)
      match w.saveMap map d with
      | (events, .error chain) =>
        .failed (records ++ events.map Event.record) (("writing " ++ map) :: chain) w
      | (events, .ok written) =>
        .success ["Stored " ++ toString d.scripts.length ++ " scripts in " ++ map ++ " (" ++
          toString d.ids.used.size ++ " object ids in use)"]
          (records ++ events.map Event.record) written

/-- What a command does. -/
def execute (w : Workspace) (settings : Settings) : Command → Report
  | .check listing verbose => checkListing w listing verbose
  | .new map width height force => newMap w settings map width height force
  | .dump map objects => dumpMap w map objects
  | .scripts map listing => storeScripts w map listing

end Command

namespace Invocation

/-- The variable whose directives are laid over the filter of the settings. -/
def filterVariable : String := "RUST_LOG"

/-- The filter of a run. -/
def filter (settings : Settings) (environment : List (String × String)) : LogFilter :=
  let base := LogFilter.empty.parse settings.logLevel
  match environment.lookup filterVariable with
  | some text => base.parse text
  | none => base

/-- A run in an environment. Without settings there is no log to write to, and
    nothing is done. -/
def execute (w : Workspace) (environment : List (String × String)) (i : Invocation) : Report :=
  match Settings.load w i.settingsFile environment with
  | none => .failed [] ["reading settings from " ++ i.settingsFile] w
  | some settings =>
    let report := i.command.execute w settings
    let told : Record := ⟨.debug, "raymap", "settings: " ++ settings.text⟩
    { report with records := (told :: report.records).filter (filter settings environment).shows }

end Invocation

/-- What the program answers to a request for its version. -/
def versionText : String := "raymap 0.1.0"

/-- What the program answers to a request for help. -/
def helpText : List String :=
  ["Trigger-script compiler and map tool for the ray map editor",
    "",
    "Usage: raymap [OPTIONS] <COMMAND>",
    "",
    "Commands:",
    "  check    Compile every line of a script listing",
    "  new      Write a blank map",
    "  dump     Print a map's size, objects and scripts",
    "  scripts  Replace a map's scripts with the valid lines of a listing",
    "  help     Print this message or the help of the given subcommand(s)",
    "",
    "Options:",
    "  -c, --config <CONFIG>  Settings file; missing is fine [default: raymap.toml]",
    "  -h, --help             Print help",
    "  -V, --version          Print version"]

end TileTriggers
