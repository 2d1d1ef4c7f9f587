import RowQuery.Proofs.Asking

/-!
# The same export by two routes

A query can be run over a file on the command line, and it can be sent to the service once the file has
been uploaded. Both come down to one thing (`exported`): the file is loaded by its name, the query runs
over it, and the result is put into a format. The command line prints it (`prints_runIn`), the service
hands it out (`handsOver_visit`), so either both succeed or neither does, and the texts are the same
(`sameExport_visit`). There are words and requests for it, whatever the file and the query are
(`Console.ofWords_wordsFor`, `visitOf`).
-/

namespace RowQuery

/-- The text that a query over a file comes to in a format. -/
def exported (name : String) (octets : List UInt8) (query : String) (format : ExportFormat) :
    Except Failure String :=
  match File.load name octets with
  | .error failure => .error failure
  | .ok dataset => ((Reader.file dataset).execute query).map fun table => table.render format

/-- A file that can be loaded answers every query that is not blank. -/
theorem exported_of_loaded {name query : String} {octets : List UInt8} {dataset : Dataset}
    (loaded : File.load name octets = .ok dataset) (notBlank : Text.allBlank query = false) (format : ExportFormat) :
    exported name octets query format = .ok ((Query.run query dataset.rows).render format) := by
  rw [exported, loaded]
  simp only [Reader.execute, notBlank]
  rfl

/-! ## Files without folders -/

namespace File

/-- The name of a file, without the folders on the way to it. -/
structure PlainName (name : String) : Prop where
  unbroken : '/' ∉ name.toList
  nonempty : name ≠ ""
  notDot : name ≠ "."
  notDots : name ≠ ".."

theorem fileName_of_plain {name : String} (plain : PlainName name) : fileName name = name := by
  have whole : name.toList.splitOn '/' = [name.toList] := List.splitOn_eq_singleton plain.unbroken
  have nonempty : name.toList ≠ [] := fun same => plain.nonempty (String.toList_inj.mp same)
  have notDot : name.toList ≠ ['.'] := fun same => plain.notDot (String.toList_inj.mp same)
  have notDots : name.toList ≠ ['.', '.'] := fun same => plain.notDots (String.toList_inj.mp same)
  have found : lastPart? name.toList = some name.toList := by
    simp [lastPart?, whole, nonempty, notDot, notDots]
  rw [fileName, found]
  exact String.ofList_toList

/-- A file is loaded alike from a path and from memory. -/
theorem loadAt_of_plain {name : String} (plain : PlainName name) (octets : List UInt8) :
    loadAt name (.ok octets) = load name octets := by
  have whole : readInChunks chunkSize octets.length octets = octets := readInChunks_eq (by decide) (Nat.le_refl _)
  rw [loadAt, load, fileName_of_plain plain]
  simp only [whole]

end File

/-! ## On the command line -/

namespace Console

/-- What is left of a run that was to print a text: the text and a newline, or a failure. -/
inductive Prints : Except Failure String → Outcome → Prop
  | text {text : String} {outcome : Outcome} (status : outcome.status = 0) (output : outcome.output = text ++ "\n") :
    Prints (.ok text) outcome
  | failure {failure : Failure} {outcome : Outcome} (status : outcome.status = 1) : Prints (.error failure) outcome

/-- What running a query over a file makes: what it is exported as, or a failure that is reported. -/
theorem exec_exported {content : String → File.Content} {name : String} {octets : List UInt8}
    (plain : File.PlainName name) (found : content name = .ok octets) (query : String) (format : ExportFormat) :
    let made := exec content query ⟨some name, .exported format, none⟩
    match exported name octets query format with
    | .ok text => ∃ rows, made = .ok ⟨text ++ "\n", none, some rows⟩
    | .error _ => ∃ report, made = .error (.failed report) := by
  rw [exported, exec, readerFor, loadFrom, found, File.loadAt_of_plain plain]
  cases File.load name octets with
  | error failure => exact ⟨_, rfl⟩
  | ok dataset =>
    simp only [Except.mapError, Except.map]
    cases (Reader.file dataset).execute query with
    | error failure => exact ⟨_, rfl⟩
    | ok table => exact ⟨table.rows.length, rfl⟩

theorem prints_runIn {folder : Folder} {words : List String} {name query : String} {format : ExportFormat}
    {octets : List UInt8} (plain : File.PlainName name) (held : folder.read name = .ok octets)
    (asked : Command.ofWords words = .ok (printing name query format)) (elapsed : String) :
    Prints (exported name octets query format) (runIn folder words elapsed).1 := by
  have made := exec_exported plain held query format
  rw [runIn, asked, printing]
  simp only [Command.perform]
  cases result : exported name octets query format with
  | error failure =>
    rw [result] at made
    obtain ⟨report, failed⟩ := made
    rw [failed]
    exact .failure rfl
  | ok text =>
    rw [result] at made
    obtain ⟨rows, done⟩ := made
    rw [done]
    exact .text rfl rfl

end Console

/-! ## At the service -/

namespace Service

/-- Three requests of a client: the first begins a session, the second uploads a file to it, and the
third has a query run over the file and its result handed out in a format. -/
structure Visit (settings : Settings) (name : String) (octets : List UInt8) (query : String)
    (format : ExportFormat) where
  creation : Moment × Http.Request
  upload : Moment × Http.Request
  fetch : Moment × Http.Request
  creates : route settings.bodyLimit creation.2 = .ok .createSession
  uploads : route settings.bodyLimit upload.2 = .ok (.upload creation.1.freshId name octets)
  fetches : route settings.bodyLimit fetch.2 = .ok (.exportQuery ⟨query, .file, some creation.1.freshId, format⟩)

/-- The visit for any file and any query, unless one of them is too large for a body. -/
def visitOf (settings : Settings) (creation upload fetch : Moment) {name query : String} {octets : List UInt8}
    {format : ExportFormat} (fileFits : octets.length ≤ settings.bodyLimit)
    (queryFits : (bodyWith (asked query creation.freshId format)).length ≤ settings.bodyLimit) :
    Visit settings name octets query format where
  creation := (creation, posted "/api/v1/sessions" none [])
  upload := (upload, posted (uploadTarget creation.freshId name) none octets)
  fetch := (fetch, posted "/api/v1/export" (some "application/json")
    (bodyWith (asked query creation.freshId format)))
  creates := route_creation settings.bodyLimit none []
  uploads := route_uploadTarget creation.freshId name none fileFits
  fetches := route_asked query creation.freshId format queryFits

section
variable {settings : Settings} {name query : String} {octets : List UInt8} {format : ExportFormat}

/-- The sessions once the session of the visit has begun. -/
def Visit.begun (visit : Visit settings name octets query format) (store : Store) : Store :=
  (respond settings visit.creation.1 store visit.creation.2).2

/-- The response to the upload, and the sessions after it. -/
def Visit.uploaded (visit : Visit settings name octets query format) (store : Store) : Http.Response × Store :=
  respond settings visit.upload.1 (visit.begun store) visit.upload.2

/-- The response to the query. -/
def Visit.fetched (visit : Visit settings name octets query format) (store : Store) : Http.Response :=
  (respond settings visit.fetch.1 (visit.uploaded store).2 visit.fetch.2).1

/-- The responses to an upload and to a query over it that was to come to a text: both succeed and the
latter is the text, or one of them does not succeed. -/
inductive HandsOver : Except Failure String → Http.Response → Http.Response → Prop
  | text {text : String} {uploaded fetched : Http.Response} (accepted : uploaded.status = 200)
      (answered : fetched.status = 200) (body : fetched.body = text) : HandsOver (.ok text) uploaded fetched
  | failure {failure : Failure} {uploaded fetched : Http.Response}
      (refused : 400 ≤ uploaded.status ∨ 400 ≤ fetched.status) : HandsOver (.error failure) uploaded fetched

theorem get?_begun (visit : Visit settings name octets query format) (store : Store) :
    (visit.begun store).holdings.get? visit.creation.1.freshId = some ⟨settings.initial, [], []⟩ := by
  obtain ⟨after, created, begun⟩ := create_eq settings visit.creation.1 store
  have same : visit.begun store = after := by
    rw [Visit.begun, respond_of_not_reads visit.creates (by rintro ⟨⟩), respondToCall, perform, created]
  rw [same, begun, Keyed.get?_put_self]

/-- The upload comes to what uploading comes to in the session that has begun. -/
theorem uploaded_eq (visit : Visit settings name octets query format) (store : Store) :
    visit.uploaded store = respondToCall settings visit.upload.1 (visit.begun store)
      (.upload visit.creation.1.freshId name octets) :=
  respond_of_not_reads visit.uploads (by rintro ⟨⟩)

theorem has_begun (visit : Visit settings name octets query format) (store : Store) :
    (visit.begun store).has visit.creation.1.freshId = true := by
  rw [Store.has_eq, get?_begun]
  rfl

theorem uploaded_of_error {failure : Failure} (visit : Visit settings name octets query format) (store : Store)
    (refused : File.load name octets = .error failure) :
    (visit.uploaded store).1 = failureResponse failure := by
  rw [uploaded_eq, respondToCall, perform, upload_of_error visit.upload.1 (has_begun visit store) refused]

/-- A file that can be loaded is accepted, and held from then on. -/
theorem uploaded_of_ok {dataset : Dataset} (visit : Visit settings name octets query format) (store : Store)
    (loaded : File.load name octets = .ok dataset) :
    (visit.uploaded store).1 = (Reply.loaded dataset).response ∧
      (visit.uploaded store).2.holdings.get? visit.creation.1.freshId = some ⟨some dataset, [], []⟩ := by
  obtain ⟨after, accepted, held⟩ := upload_of_ok visit.upload.1 (has_begun visit store) loaded
  rw [uploaded_eq, respondToCall, perform, accepted]
  refine ⟨rfl, ?_⟩
  simp only [held, Keyed.get?_change, if_pos, get?_begun, Option.map_some]

/-- A query over a file that is held comes to what comes of running it. -/
theorem fetched_of_held {dataset : Dataset} (visit : Visit settings name octets query format) (store : Store)
    (held : (visit.uploaded store).2.holdings.get? visit.creation.1.freshId = some ⟨some dataset, [], []⟩) :
    visit.fetched store = responseTo (.file format) ((Reader.file dataset).execute query) := by
  have named : ¬Call.Reads (.exportQuery ⟨query, .file, some visit.creation.1.freshId, format⟩) := by
    intro reads
    cases reads with
    | exportQuery unnamed => cases unnamed
  obtain ⟨left, told, _⟩ := respondToCall_told settings visit.fetch.1 (visit.uploaded store).2
    (.exportQuery ⟨query, .file, some visit.creation.1.freshId, format⟩) rfl
  rw [Visit.fetched, respond_of_not_reads visit.fetches named, told, result_of_live rfl rfl held]
  rfl

theorem handsOver_visit (visit : Visit settings name octets query format) (store : Store) :
    HandsOver (exported name octets query format) (visit.uploaded store).1 (visit.fetched store) := by
  cases loaded : File.load name octets with
  | error failure =>
    rw [exported, loaded, uploaded_of_error visit store loaded]
    exact .failure (.inl (status_failure failure))
  | ok dataset =>
    obtain ⟨accepted, held⟩ := uploaded_of_ok visit store loaded
    rw [exported, loaded, accepted, fetched_of_held visit store held]
    dsimp only
    cases (Reader.file dataset).execute query with
    | error failure => exact .failure (.inr (status_failure failure))
    | ok table => exact .text rfl rfl rfl

end

/-- A run on the command line and a visit to the service that agree: the run succeeds if and only if the
upload and the query do, and then it prints what is handed out, and a newline. They do succeed if the file
can be loaded and the query is not blank. -/
structure SameExport (name : String) (octets : List UInt8) (query : String) (format : ExportFormat)
    (printed : Console.Outcome) (uploaded fetched : Http.Response) : Prop where
  succeeds : printed.status = 0 ↔ uploaded.status = 200 ∧ fetched.status = 200
  text : printed.status = 0 → printed.output = fetched.body ++ "\n"
  answers : ∀ dataset, File.load name octets = .ok dataset → Text.allBlank query = false →
    printed.status = 0 ∧ fetched.body = (Query.run query dataset.rows).render format

theorem sameExport_of_exported {name query : String} {octets : List UInt8} {format : ExportFormat}
    {printed : Console.Outcome} {uploaded fetched : Http.Response}
    (prints : Console.Prints (exported name octets query format) printed)
    (handsOver : HandsOver (exported name octets query format) uploaded fetched) :
    SameExport name octets query format printed uploaded fetched := by
  generalize result : exported name octets query format = outcome at prints handsOver
  cases prints with
  | text status output =>
    cases handsOver with
    | text accepted answered body =>
      refine ⟨iff_of_true status ⟨accepted, answered⟩, fun _ => body ▸ output, ?_⟩
      intro dataset loaded notBlank
      rw [exported_of_loaded loaded notBlank] at result
      cases result
      exact ⟨status, body⟩
  | failure status =>
    cases handsOver with
    | failure refused =>
      refine ⟨iff_of_false (by omega) ?_, fun succeeds => by omega, ?_⟩
      · rintro ⟨accepted, answered⟩
        omega
      · intro dataset loaded notBlank
        rw [exported_of_loaded loaded notBlank] at result
        cases result

/-- Whatever a file holds and whatever the query is, printing the result on the command line and having
it handed out by the service, in whatever state, succeed alike and come to the same text. -/
theorem sameExport_visit {settings : Settings} {folder : Folder} {words : List String} {name query : String}
    {octets : List UInt8} {format : ExportFormat} (plain : File.PlainName name) (held : folder.read name = .ok octets)
    (asked : Console.Command.ofWords words = .ok (Console.printing name query format)) (elapsed : String)
    (visit : Visit settings name octets query format) (store : Store) :
    SameExport name octets query format (Console.runIn folder words elapsed).1 (visit.uploaded store).1
      (visit.fetched store) :=
  sameExport_of_exported (Console.prints_runIn plain held asked elapsed) (handsOver_visit visit store)

/-- A visit in which a file with one row is uploaded and all of it is fetched. -/
def shortVisit : Visit smallSettings "n.csv" [0x6E, 0x0A, 0x31] "select n" .csv :=
  visitOf smallSettings (momentOf "00000000000a") (momentOf "00000000000b") (momentOf "00000000000c")
    (by decide) (by decide +kernel)

theorem sameExport_shortVisit :
    let printed := (Console.runIn [("n.csv", .file [0x6E, 0x0A, 0x31])]
      (Console.wordsFor "n.csv" "select n" .csv) "0.10").1
    printed.output = "n\n\"1\"\n" ∧ SameExport "n.csv" [0x6E, 0x0A, 0x31] "select n" .csv printed
      (shortVisit.uploaded filledStore).1 (shortVisit.fetched filledStore) := by
  have plain : File.PlainName "n.csv" := ⟨by decide, by decide, by decide, by decide⟩
  have asked := Console.ofWords_wordsFor plain.nonempty "select n" .csv
  exact ⟨by decide +kernel, sameExport_visit plain rfl asked "0.10" shortVisit filledStore⟩

end Service

end RowQuery
