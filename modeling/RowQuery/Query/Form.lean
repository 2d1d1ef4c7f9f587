import RowQuery.Json.Basic
import RowQuery.Query.Basic

/-!
# Queries as JSON

How a query is understood, as a JSON value.
-/

namespace RowQuery

/-- A comparison as JSON. -/
def Comparison.toJson : Comparison → Json
  | .equal => .string "eq"
  | .greater => .string "gt"
  | .less => .string "lt"
  | .unsupported token => .object [("unsupported", .string token)]

/-- A filter as JSON. -/
def Filter.toJson (filter : Filter) : Json :=
  .object
    [("field", .string filter.field), ("op", filter.op.toJson), ("value", .string filter.value)]

/-- A projection as JSON. -/
def Projection.toJson : Projection → Json
  | .all => .string "all"
  | .columns names => .object [("columns", Json.ofStrings names)]

/-- A query as JSON. -/
def Query.toJson : Query → Json
  | .passthrough => .object [("kind", .string "passthrough")]
  | .select projection filter =>
    .object
      [("kind", .string "select"), ("projection", projection.toJson),
       ("filter", Json.ofOption (filter.map Filter.toJson))]

end RowQuery
