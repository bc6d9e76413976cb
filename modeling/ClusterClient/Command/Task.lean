import ClusterClient.Command.Arguments
import ClusterClient.Command.Export
import ClusterClient.Command.Load
import ClusterClient.Number.Power

/-!
# The commands

A `Task` is one of the things that the client can be asked to do. Every command has its level of the
command line, which says what words and options it takes; `Scan.task` is the command that the words
and options on such a level ask for.
-/

namespace ClusterClient.Command

/-- What the client is asked to do. -/
inductive Task where
  | get (index docType id : String) (routing : Option String)
  | search (index docType : Option String) (query : String) (routing : Option String)
  | index (index docType body : String) (id routing : Option String)
  | delete (index docType id : String) (routing : Option String)
  /-- Loads documents from a file, or from the standard input if none is named. -/
  | bulk (options : LoadOptions) (input : Option String) (progress : Bool)
  | scroll (options : ExportOptions)
  deriving DecidableEq, Repr

namespace Task

/-- The file that a command reads. -/
def input? : Task → Option String
  | .bulk _ input _ => input
  | _ => none

/-- The file that a command writes. -/
def output? : Task → Option String
  | .scroll options => options.output
  | _ => none

/-- Whether a command reads the standard input. -/
def readsStandardInput : Task → Bool
  | .bulk _ none _ => true
  | _ => false

end Task

/-- The form of the log. -/
inductive LogFormat where
  | text
  | json
  deriving DecidableEq, Repr

namespace LogFormat

/-- The word for a form. -/
def name : LogFormat → String
  | .text => "text"
  | .json => "json"

/-- The form that a word stands for. -/
def ofName? (name : String) : Option LogFormat :=
  [LogFormat.text, .json].find? fun format => format.name == name

end LogFormat

/-- The whole number that a text spells, of at most 64 bits; a plus sign may precede it. -/
def count? (text : String) : Option Nat :=
  let digits := match text.toList with
    | '+' :: rest => rest
    | rest => rest
  if digits.isEmpty || !digits.all Char.isDigit then none
  else
    let value := Numeral.digitsValue digits
    if value < twoTo 64 then some value else none

/-- Whether a text is a whole number. -/
def isCount (text : String) : Bool := (count? text).isSome

/-- Whether a text can be the path of a file. -/
def isPath (text : String) : Bool := !text.isEmpty

/-- The search unless one is given: it finds everything. -/
def defaultQuery : String := "\x7b\"query\": \x7b\"match_all\": \x7b\x7d\x7d\x7d"

/-- The type of documents unless one is given. -/
def defaultDocType : String := "_doc"

/-- The variable that holds the nodes. -/
def hostsVariable : String := "SEARCHLINK_HOSTS"

/-- The variable that holds the log format. -/
def logFormatVariable : String := "LOG_FORMAT"

/-- The options that stand on every level. -/
def globalOptions : List OptionSpec :=
  [{ name := "hosts", kind := .multiple, setBy := some hostsVariable
     about := "Cluster nodes (comma-separated base URLs)" },
    { name := "config", short := some 'c', accepts := isPath
      about := "TOML client configuration file" },
    { name := "timeout-ms", accepts := isCount, about := "Request timeout in milliseconds" },
    { name := "log-format", accepts := fun value => (LogFormat.ofName? value).isSome
      setBy := some logFormatVariable, otherwise := some LogFormat.text.name
      choices := [LogFormat.text.name, LogFormat.json.name], about := "Log output format" }]

/-- The option that asks for help. -/
def helpOption : OptionSpec :=
  { name := "help", short := some 'h', kind := .help, about := "Print help" }

/-- The option that asks for the version. -/
def versionOption : OptionSpec :=
  { name := "version", short := some 'V', kind := .version, about := "Print version" }

/-- The command that asks for help. -/
def helpCommand : Place where
  name := "help"
  about := "Print this message or the help of the given subcommand(s)"

/-- What options at one place are listed by: the letter, if there is one, or the name. -/
def OptionSpec.listedBy (option : OptionSpec) : String :=
  match option.short with
  | some letter => String.singleton letter
  | none => option.name

/-- The options of two lists place by place. -/
def OptionSpec.interleave : List OptionSpec → List OptionSpec → List OptionSpec
  | [], second => second
  | first, [] => first
  | a :: first, b :: second =>
    if a.listedBy < b.listedBy then a :: b :: interleave first second
    else b :: a :: interleave first second

/-- The level of a command with options of its own, each listed at its place beside one of those
that stand on every level. -/
def commandLevel (about : String) (words : List Place) (options : List OptionSpec) : Level where
  about := about
  options := OptionSpec.interleave globalOptions options ++ [helpOption]
  words := words

/-- The option for a routing value. -/
def routingOption : OptionSpec := { name := "routing", about := "Routing value" }

/-- The option for the query of a search. -/
def queryOption : OptionSpec :=
  { name := "query", short := some 'q', otherwise := some defaultQuery, about := "Search body" }

/-- The option for the index that is worked on. -/
def indexOption (about : String) : OptionSpec :=
  { name := "index", short := some 'i', required := true, about }

/-- The option for the type of documents that are worked on. -/
def docTypeOption : OptionSpec :=
  { name := "doc-type", short := some 't', otherwise := some defaultDocType
    about := "Document type" }

/-- The words that name a document. -/
def documentWords : List Place := [{ name := "index" }, { name := "doc-type" }, { name := "id" }]

/-- The level of `get`. -/
def getLevel : Level := commandLevel "Fetch a document by id" documentWords [routingOption]

/-- The level of `search`. -/
def searchLevel : Level :=
  commandLevel "Run a search" []
    [{ name := "index", short := some 'i'
       about := "Index to search (all indices when omitted)" },
      { name := "doc-type", short := some 't', about := "Document type to search" },
      queryOption, routingOption]

/-- The level of `index`. -/
def indexLevel : Level :=
  commandLevel "Index a single document"
    [{ name := "index" }, { name := "doc-type" }, { name := "body", about := "Document JSON" }]
    [{ name := "id", about := "Document id (assigned by the cluster when omitted)" }, routingOption]

/-- The level of `delete`. -/
def deleteLevel : Level := commandLevel "Delete a document by id" documentWords [routingOption]

/-- The level of `bulk`. -/
def bulkLevel : Level :=
  commandLevel "Load a JSONL file through the bulk API" []
    [indexOption "Target index", docTypeOption,
      { name := "input", short := some 'f', accepts := isPath
        about := "JSONL input file (stdin when omitted)" },
      { name := "batch-size", accepts := isCount
        otherwise := some (toString Bulk.Batch.defaultSize)
        about := "Operations per bulk request" },
      { name := "id-field", about := "Top-level field holding the document id" },
      { name := "create", kind := .switch, about := "Use create instead of index operations" },
      { name := "no-progress", kind := .switch, about := "Disable the progress line" }]

/-- The level of `scroll`. -/
def scrollLevel : Level :=
  commandLevel "Export every hit of a search as JSON lines" []
    [indexOption "Index to page through", docTypeOption, queryOption,
      { name := "size", accepts := isCount
        otherwise := some (toString Scroll.Session.defaultPageSize), about := "Hits per page" },
      { name := "ttl", otherwise := some Scroll.Session.defaultTtl
        about := "Keep-alive of the server-side cursor" },
      { name := "scan", kind := .switch, about := "Use the legacy scan search type" },
      { name := "shards", accepts := isCount, otherwise := some "0"
        about := "Primary shards of the index (scan page size divisor)" },
      { name := "output", short := some 'o', accepts := isPath
        about := "Output file (stdout when omitted)" }]

/-- The levels of the commands with their names. -/
def taskLevels : List (String × Level) :=
  [("get", getLevel), ("search", searchLevel), ("index", indexLevel), ("delete", deleteLevel),
    ("bulk", bulkLevel), ("scroll", scrollLevel)]

/-- The level of a command. -/
def taskLevel? (name : String) : Option Level :=
  (taskLevels.find? fun entry => entry.1 == name).map (·.2)

/-- The level of the program. -/
def programLevel : Level where
  about := "Searchlink CLI - talk to an Elasticsearch-compatible cluster"
  options := globalOptions ++ [helpOption, versionOption]
  commands := taskLevels.map (fun entry => { name := entry.1, about := entry.2.about })
    ++ [helpCommand]

/-- The number that an option gives, or another one. -/
def countOf (scan : Scan) (name : String) (otherwise : Nat) : Nat :=
  ((scan.value? name).bind count?).getD otherwise

/-- The command of a name that the words and options on its level ask for. -/
def Scan.task (scan : Scan) (name : String) : Except Interruption Task :=
  let docType := (scan.value? "doc-type").getD defaultDocType
  let query := (scan.value? "query").getD defaultQuery
  let routing := scan.value? "routing"
  match name, scan.words, scan.value? "index" with
  | "get", [index, docType, id], _ => .ok (.get index docType id routing)
  | "search", [], index => .ok (.search index (scan.value? "doc-type") query routing)
  | "index", [index, docType, body], _ =>
    .ok (.index index docType body (scan.value? "id") routing)
  | "delete", [index, docType, id], _ => .ok (.delete index docType id routing)
  | "bulk", [], some index =>
    .ok (.bulk
      { index, docType
        batchSize := countOf scan "batch-size" Bulk.Batch.defaultSize
        idField := scan.value? "id-field"
        create := scan.has "create" }
      (scan.value? "input") (!scan.has "no-progress"))
  | "scroll", [], some index =>
    .ok (.scroll
      { index, docType, query
        pageSize := countOf scan "size" Scroll.Session.defaultPageSize
        ttl := (scan.value? "ttl").getD Scroll.Session.defaultTtl
        scan := scan.has "scan"
        primaryShards := countOf scan "shards" 0
        output := scan.value? "output" })
  | _, _, _ => .error .usage

end ClusterClient.Command
