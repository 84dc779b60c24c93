import ServiceCharter.Command.Grammar
import ServiceCharter.Command.Override
import ServiceCharter.Command.Script
import ServiceCharter.Logging.Filter
import ServiceCharter.Registry
import ServiceCharter.Session
import ServiceCharter.Settings.Load

/-!
# Running the program

The script of a command line. Extra parameters are taken out first, then the words are matched, the
settings are loaded and changed by the extra parameters, the faults of the log filter are reported,
and only then the request is carried out.

`convert` writes one document in another format. `export` submits and receives a reply in a new
session and writes both downloads, which are made before the first of them is written.

Three texts are short ones of this library, in place of longer ones that are not modelled: `usage`
for the help, which would describe every command and option, `UsageError.message` for what is wrong
with a command line, and `describeFault` for what is wrong with the settings, which would name the
file, the key and the types. What is modelled is when they are printed, on which stream, and with
which exit code. Every other text that a run prints is modelled in full.
-/

namespace ServiceCharter.Command

/-! ### Settings -/

/-- The settings file of the working folder. -/
def settingsFile : Text := "carta.toml".toList

/-- A path, last character first, without slashes and components `.` at its end. -/
def trimPathEnd : Text → Text
  | '/' :: t => trimPathEnd t
  | '.' :: '/' :: t => trimPathEnd t
  | t => t

/-- The path at which a settings file is looked for if it is not where it should be, because its
extension may have been left out. There is none if the path ends in no name. -/
def otherPath? (path : Text) : Option Text :=
  match (FileName.components path).getLast? with
  | none => none
  | some name =>
    if name = ['.', '.'] then none
    else some ((trimPathEnd path.reverse).reverse ++ ".toml".toList)

/-- The source that a settings file is. -/
def sourceOf (required : Bool) (content : ByteArray) : Settings.Source :=
  match String.fromUTF8? content with
  | some s => .file s.toList
  | none => .unreadable required

/-- Reads a settings file. -/
def readSource (path : Text) (required : Bool) (next : Settings.Source → Script) : Script :=
  .read path fun
    | .ok content => next (sourceOf required content)
    | .error _ =>
      match otherPath? path with
      | none => next (.unreadable required)
      | some other =>
        .read other fun
          | .ok content => next (sourceOf required content)
          | .error _ => next (.unreadable required)

/-- A short text for a fault in the settings, in place of its full text. -/
def describeFault : Settings.Fault → String
  | .unreadableFile => "configuration file not found"
  | .invalidFile => "invalid TOML"
  | .invalidKey => "invalid key"
  | .wrongType => "a value has the wrong type"
  | .wrongShape => "a section is incomplete"

/-- Loads the settings from the sources. -/
def loadSettings (sources : List Settings.Source) (next : Settings → Script) : Script :=
  Script.orFail (fun f => s!"Failed to load configuration: {describeFault f}")
    (Settings.load sources []) next

/-- Reads the settings file of the working folder and the one that is given, and loads them. -/
def withSettings (given : Option String) (next : Settings → Script) : Script :=
  readSource settingsFile false fun base =>
    match given with
    | none => loadSettings [base] next
    | some path => readSource path.toList true fun extra => loadSettings [base, extra] next

/-! ### Files -/

/-- Reads a file that has to be text. -/
def readText (path : String) (next : Text → Script) : Script :=
  .read path.toList fun result =>
    let decoded : Except FileError Text :=
      match result with
      | .error e => .error e
      | .ok content =>
        match String.fromUTF8? content with
        | some s => .ok s.toList
        | none => .error .notText
    Script.orFail (fun e => s!"Error reading file '{path}': {e.message}") decoded next

/-- Writes a file. -/
def writeFile (path : Text) (content : ByteArray) (next : Script) : Script :=
  .write path content fun result =>
    Script.orFail (fun e => s!"Error writing file '{String.ofList path}': {e.message}") result
      fun () => next

/-- The path of a file in a folder. A path from the root stays as it is. -/
def joinPath (folder name : Text) : Text :=
  if name.head? = some '/' then name
  else if folder.isEmpty ∨ folder.getLast? = some '/' then folder ++ name
  else folder ++ ['/'] ++ name

/-! ### Converting -/

/-- The parameters for a target format: the settings for HTML, and the extra parameters. -/
def targetParameters (settings : Settings) (extras : Table String) (target : String) :
    Table String :=
  let base : Table String :=
    if target = "html" then
      Table.ofList [("standalone", if settings.page.standalone then "true" else "false"),
        ("title", settings.page.title)]
    else []
  extras.foldl (fun parameters e => parameters.insert e.1 e.2) base

/-- Writes the result of a conversion. -/
def writeResult (output : Option String) (result : Text) : Script :=
  match output with
  | some path => writeFile path.toList (String.ofList result).toUTF8 (.exit 0)
  | none => .print result (.exit 0)

/-- Converts a file from a format to another. -/
def convert (settings : Settings) (extras : Table String) (input source target : String)
    (output : Option String) : Script :=
  let registry := Registry.builtin
  let known (name : String) (next : Script) : Script :=
    Script.orFail (fun e => s!"Error: {ServiceError.message e}") (registry.get name) fun _ => next
  known source <| known target <| readText input fun text =>
    Script.orFail ServiceError.message (registry.read text source) fun d =>
      Script.orFail (fun e => s!"Serialization error: {ServiceError.message e}")
        (registry.writeWith d target (targetParameters settings extras target))
        (writeResult output)

/-- Converts a file whose format may have to be told from its name. -/
def convertDetected (settings : Settings) (extras : Table String) (input : String)
    (source : Option String) (target : String) (output : Option String) : Script :=
  match source.or (Registry.builtin.detect? input.toList) with
  | some source => convert settings extras input source target output
  | none =>
    Script.warn (s!"Error: Could not detect format from filename '{input}'\n".toList)
      (Script.fail "Please specify --from explicitly")

/-! ### Downloads -/

/-- The downloads that a reply makes in a new session. -/
def downloads (names : DownloadSettings) (raw : Text) :
    Except ServiceError (Download × Download) :=
  match Session.new.submit raw with
  | (.error e, _) => .error e
  | (.ok (), s) =>
    match s.receiveRaw raw with
    | (.error e, _) => .error e
    | (.ok _, s) =>
      match s.markdown names.markdownFileName, s.plain names.textFileName with
      | .error e, _ => .error e
      | _, .error e => .error e
      | .ok m, .ok t => .ok (m, t)

/-- Writes a download into a folder and reports it. -/
def writeDownload (folder : String) (d : Download) (next : Script) : Script :=
  let path := joinPath folder.toList d.fileName.toList
  writeFile path d.bytes
    (Script.printLine (path ++ [' ', '('] ++ d.mediaType.toList ++ [')']) next)

/-- Writes the downloads of a reply. -/
def exportReply (settings : Settings) (input folder : String) : Script :=
  readText input fun raw =>
    Script.orFail ServiceError.message (downloads settings.downloads raw) fun (m, t) =>
      writeDownload folder m (writeDownload folder t (.exit 0))

/-! ### Lists -/

/-- The text with blanks behind it up to a width. -/
def padded (width : Nat) (t : Text) : Text := t ++ List.replicate (width - t.length) ' '

/-- The line of a field in the list of sections. -/
def sectionLine (f : Field) : Text := padded 24 f.key.toList ++ [' '] ++ f.title.toList

/-- Prints lines. -/
def printLines (lines : List Text) (next : Script) : Script :=
  lines.foldr Script.printLine next

/-- Prints the list of sections. -/
def listSections : Script := printLines (Field.all.map sectionLine) (.exit 0)

/-- The directions in which a format goes. -/
def direction (f : Format) : String :=
  match f.reads, f.writes with
  | true, true => "in/out"
  | true, false => "in"
  | false, true => "out"
  | false, false => "-"

/-- The line of a format in the list of formats. -/
def formatLine (f : Format) : Text :=
  [' ', ' '] ++ padded 10 f.name.toList ++ [' '] ++ padded 7 (direction f).toList ++ [' ', '.'] ++
    padded 10 ([' ', '.'].intercalate (f.extensions.map String.toList)) ++ [' '] ++
    f.description.toList

/-- Prints the list of formats. -/
def listFormats : Script :=
  let formats := Registry.builtin.formats.map Prod.snd
  printLines ("Available formats:\n".toList :: formats.map formatLine) (.exit 0)

/-! ### Command lines -/

/-- A summary of the command line, in place of the full help. -/
def usage : String :=
  "Usage: carta [--config PATH] [--list-formats] [COMMAND]\n\n" ++
  "  convert INPUT --to FORMAT [--from FORMAT] [-o FILE]\n" ++
  "  export INPUT [-d FOLDER]\n" ++
  "  sections\n"

/-- The name and version of the program. -/
def versionLine : String := "carta 0.1.0\n"

/-- Reports why a command line is not carried out. -/
def reportUsage : UsageError → Script
  | .help => .print usage.toList (.exit 0)
  | .version => .print versionLine.toList (.exit 0)
  | e => .warn (s!"error: {e.message}\n\n{usage}".toList) (.exit 2)

/-- Carries out a request. -/
def perform (settings : Settings) (extras : Table String) : Option Request → Script
  | some (.convert input source target output) =>
    convertDetected settings extras input source target output
  | some (.export input folder) => exportReply settings input folder
  | some .sections => listSections
  | none => Script.fail "Unknown subcommand. Use --help for usage information."

/-- Reports the faults of the log filter. -/
def reportFilter (settings : Settings) (next : Script) : Script :=
  (Logging.warnings settings.logFilter.toList).foldr (fun line => Script.warn (line ++ ['\n'])) next

/-- Carries out a command line with its extra parameters. -/
def runMatches (m : Matches) (extras : Table String) : Script :=
  withSettings m.config fun settings =>
    Script.orFail InvalidFlag.message (override settings extras) fun (settings, extras) =>
      reportFilter settings <|
        if m.listFormats then listFormats else perform settings extras m.request

/-- The script of the words behind the name of the program. -/
def script (words : List String) : Script :=
  let (words, extras) := splitExtras words
  match matchWithDefault words with
  | .ok m => runMatches m extras
  | .error e => reportUsage e

end ServiceCharter.Command
