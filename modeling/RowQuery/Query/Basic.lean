/-!
# Queries

What a query asks for: the whole table, or chosen columns of the rows that pass at most one
comparison.
-/

namespace RowQuery

/-- How a cell is compared. An operator that is not supported lets every row pass. -/
inductive Comparison where
  | equal
  | greater
  | less
  | unsupported (token : String)
  deriving DecidableEq, Repr

/-- The comparison that a token writes. -/
def Comparison.ofToken (token : String) : Comparison :=
  if token = "=" then .equal
  else if token = ">" then .greater
  else if token = "<" then .less
  else .unsupported token

/-- The token that writes a comparison. -/
def Comparison.token : Comparison → String
  | .equal => "="
  | .greater => ">"
  | .less => "<"
  | .unsupported token => token

/-- A cell compared with a value, which is kept as it was written, quotes included. -/
structure Filter where
  field : String
  op : Comparison
  value : String
  deriving DecidableEq, Repr

/-- The columns that are asked for: those of the first row, or named ones in the order named. -/
inductive Projection where
  | all
  | columns (names : List String)
  deriving DecidableEq, Repr

/-- A query. One that does not select passes everything through. -/
inductive Query where
  | passthrough
  | select (projection : Projection) (filter : Option Filter)
  deriving DecidableEq, Repr

namespace Query

/-- The projection in words. -/
def describeProjection : Projection → String
  | .all => "select *"
  | .columns names => "select [" ++ ", ".intercalate names ++ "]"

/-- The filter in words, with a blank in front. -/
def describeFilter : Option Filter → String
  | none => ""
  | some filter =>
    " where " ++ filter.field ++ " " ++ filter.op.token ++ " " ++ filter.value

/-- How a query is understood, in words. -/
def describe : Query → String
  | .passthrough => "passthrough (all rows, all columns)"
  | .select projection filter => describeProjection projection ++ describeFilter filter

end Query

end RowQuery
