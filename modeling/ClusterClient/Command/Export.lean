import ClusterClient.Command.CommandError
import ClusterClient.Disk
import ClusterClient.Scroll.Session

/-!
# Exporting the hits of a search

All hits of a search are written as JSON lines to a file or to the standard output. The export ends
when there is no next page or a page has no hits; then the cursor is given back.
-/

namespace ClusterClient.Command

/-- What to export and how. -/
structure ExportOptions where
  index : String
  docType : String
  query : String
  pageSize : Nat
  ttl : String
  scan : Bool
  primaryShards : Nat
  /-- The file to write; the standard output if there is none. -/
  output : Option String
  deriving DecidableEq, Repr

/-- The session for an export. -/
def ExportOptions.session (options : ExportOptions) : Scroll.Session :=
  if options.scan then .scan options.pageSize options.ttl options.primaryShards
  else .standard options.pageSize options.ttl

/-- What was exported. -/
structure Exported where
  /-- The number of hits. -/
  count : Nat
  /-- What was printed. -/
  printed : String
  /-- The files afterwards. -/
  disk : Disk

/-- The hits of all pages up to the first one without hits, and the session behind them; `bound`
limits the number of pages. -/
def exportPages : Nat → Scroll.Session → Exchange (List Json × Scroll.Session)
  | 0, session => .done ([], session)
  | bound + 1, session => do
    match ← session.next with
    | (none, session) => return ([], session)
    | (some page, session) =>
      if page.hits.isEmpty then return ([], session)
      else
        let (hits, session) ← exportPages bound session
        return (page.hits ++ hits, session)

/-- The lines for hits. -/
def hitLines (hits : List Json) : String :=
  String.ofList (hits.flatMap fun hit => hit.compactChars ++ ['\n'])

/-- The files with an empty one made for the output, if that is a file. -/
def openOutput (disk : Disk) : Option String → Except CommandError Disk
  | none => .ok disk
  | some path =>
    match disk.write? path .empty with
    | none => .error (.uncreatedOutput path)
    | some disk => .ok disk

/-- What is printed, and the files with what is written. -/
def deliver (disk : Disk) (output : Option String) (text : String) : String × Disk :=
  match output with
  | none => (text, disk)
  | some path => ("", (disk.write? path text.toUTF8).getD disk)

/-- Exports the hits of a search, which must be a JSON text; `bound` limits the number of pages. -/
def exportHits (bound : Nat) (options : ExportOptions) (disk : Disk) :
    Exchange (Except CommandError Exported) :=
  if (Json.parse? options.query).isNone then .done (.error .invalidQuery)
  else
    match openOutput disk options.output with
    | .error error => .done (.error error)
    | .ok disk => do
      let session ← options.session.init ⟨options.index, options.docType, options.query⟩
      let (hits, session) ← exportPages bound session
      let _ ← session.clear
      let (printed, disk) := deliver disk options.output (hitLines hits)
      return .ok ⟨hits.length, printed, disk⟩

end ClusterClient.Command
