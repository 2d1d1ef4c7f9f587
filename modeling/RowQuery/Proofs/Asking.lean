import RowQuery.Console.Perform
import RowQuery.Proofs.JsonRecords
import RowQuery.Proofs.Targets

/-!
# Asking for an export

Any query over any file can be asked for. On the command line the name of the file is joined to its
option and the query stands behind the divider, so neither is taken for anything else
(`ofWords_wordsFor`). At the service the query is a text in a record, which is read back as it was written
(`route_asked`).
-/

namespace RowQuery

/-! ## On the command line -/

namespace Console

section
variable {usage : Usage} {given taken : Given} {text : String}

/-- A value that is joined to its option is taken for it, whatever the value looks like. -/
theorem read_joined {name value : String} {accepts : String → Bool}
    (joined : Word.ofText text = .long name (some value)) (option : usage.options.get? name = some accepts)
    (added : given.addValue accepts name value = .ok taken) (rest : List String) :
    usage.read given (text :: rest) = usage.read taken rest := by
  rw [Usage.read, joined]
  simp only [option, added]

theorem read_divider (divider : Word.ofText text = .divider) (rest : List String) :
    usage.read given (text :: rest) = given.addOperands usage rest := by
  rw [Usage.read, divider]

theorem addValue_of_new {name value : String} {accepts : String → Bool} (new : given.values.has name = false)
    (accepted : accepts value = true) :
    given.addValue accepts name value = .ok { given with values := given.values.put name value } := by
  rw [Given.addValue, new, accepted]
  rfl

end

/-- A query over a file, of which the result is to be printed in a format. -/
def printing (name query : String) (format : ExportFormat) : Command :=
  .exec query ⟨some name, .exported format, none⟩

/-- The words that ask for it. -/
def wordsFor (name query : String) (format : ExportFormat) : List String :=
  ["exec", "--file=" ++ name, "--format=" ++ format.label, "--", query]

theorem ofWords_wordsFor {name : String} (nonempty : name ≠ "") (query : String) (format : ExportFormat) :
    Command.ofWords (wordsFor name query format) = .ok (printing name query format) := by
  let usage := Command.runUsage fun _ => true
  have path : Word.ofText ("--file=" ++ name) = .long "file" (some name) := by
    simp [Word.ofText]
  have accepted : isPath name = true := bne_iff_ne.mpr nonempty
  have layout : Word.ofText ("--format=" ++ format.label) = .long "format" (some format.label) := by
    cases format <;> rfl
  have known : Layout.ofText? format.label = some (.exported format) := by
    cases format <;> rfl
  have read : usage.read .nothing ["--file=" ++ name, "--format=" ++ format.label, "--", query] =
      .ok ⟨[], [("file", name), ("format", format.label)], [query]⟩ := by
    rw [read_joined path rfl (addValue_of_new rfl accepted),
      read_joined layout rfl (addValue_of_new rfl (by rw [known]; rfl)), read_divider rfl]
    rfl
  have given : Command.deliveryOf ⟨[], [("file", name), ("format", format.label)], [query]⟩ =
      ⟨some name, .exported format, none⟩ := by
    simp [Command.deliveryOf, Keyed.get?, known]
  have named : Word.ofText "exec" = .operand "exec" := rfl
  rw [Command.ofWords, wordsFor, Command.ofWordsAfter, named]
  simp only [Command.ofName, Command.withOperand]
  rw [read]
  simp only [given]
  rfl

end Console

/-! ## At the service -/

namespace Service

/-- The body that a record is written into. -/
def bodyWith (texts : Keyed String) : List UInt8 :=
  Text.Utf8.encode (Json.object (texts.mapValues .string)).compact

/-- A record of texts is read from a body that is declared to be JSON, unless it is too large. -/
theorem recordOf_bodyWith {limit : Nat} {fields : List Json.Field} {texts : Keyed String}
    (fills : Json.Fills fields texts) (target : String) (fits : (bodyWith texts).length ≤ limit) :
    recordOf limit fields (posted target (some "application/json") (bodyWith texts)) = .ok (texts.mapValues some) := by
  have declared : Http.MediaType.isJson "application/json" = true := by decide +kernel
  have body : bodyOf limit (posted target (some "application/json") (bodyWith texts)) = .ok (bodyWith texts) :=
    if_neg (Nat.not_lt.mpr fits)
  have read : Json.readRecord fields (Text.Utf8.asChars (bodyWith texts)) = .ok (texts.mapValues some) := by
    rw [bodyWith, Text.Utf8.asChars_encode, Json.readRecord_compact fills]
  rw [recordOf, body]
  simp only [posted, Option.map_some, declared, Option.getD_some, Bool.not_true, Bool.false_eq_true, if_false, read]

/-- What is told of a query over the file of a session. -/
def asked (query id : String) (format : ExportFormat) : Keyed String :=
  [("query", query), ("source", Source.file.label), ("sessionId", id), ("format", format.label)]

theorem fills_asked (query id : String) (format : ExportFormat) : Json.Fills queryFields (asked query id format) where
  distinct := by
    change ["query", "source", "sessionId", "format"].Nodup
    decide
  taken := by
    simp only [asked, List.forall_mem_cons, List.not_mem_nil, false_imp_iff, implies_true, and_true]
    refine ⟨⟨_, rfl, trivial⟩, ⟨_, rfl, ?_⟩, ⟨_, rfl, trivial⟩, ⟨_, rfl, ?_⟩⟩
    · exact List.mem_cons_of_mem _ List.mem_cons_self
    · cases format with
      | csv => exact List.mem_cons_self
      | json => exact List.mem_cons_of_mem _ List.mem_cons_self
  required := by
    simp [queryFields, asked, Keyed.keys]

theorem queryRequestOf_asked (query id : String) (format : ExportFormat) :
    queryRequestOf ((asked query id format).mapValues some) = ⟨query, .file, some id, format⟩ := by
  cases format <;> rfl

theorem route_asked (query id : String) (format : ExportFormat) {limit : Nat}
    (fits : (bodyWith (asked query id format)).length ≤ limit) :
    route limit (posted "/api/v1/export" (some "application/json") (bodyWith (asked query id format))) =
      .ok (.exportQuery ⟨query, .file, some id, format⟩) := by
  rw [route_export, queryPosted, recordOf_bodyWith (fills_asked query id format) _ fits]
  exact congrArg (fun request => Except.ok (Call.exportQuery request)) (queryRequestOf_asked query id format)

theorem route_creation (limit : Nat) (contentType : Option String) (body : List UInt8) :
    route limit (posted "/api/v1/sessions" contentType body) = .ok .createSession := by
  have found : Resource.ofPath (Http.pathOf "/api/v1/sessions") = some .sessions := by decide
  rw [route_posted limit contentType body found rfl, callOf]

end Service

end RowQuery
