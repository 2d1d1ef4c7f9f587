import RowQuery.Console.Words
import RowQuery.Program
import RowQuery.Table.Export

/-!
# Commands

What can be asked for on the command line, and the words that ask for it.
-/

namespace RowQuery.Console

/-- How a result is printed. -/
inductive Layout where
  | table
  | exported (format : ExportFormat)
  deriving DecidableEq, Repr

/-- The layout of a name. -/
def Layout.ofText? (text : String) : Option Layout :=
  if text = "table" then some .table
  else if text = "json" then some (.exported .json)
  else if text = "csv" then some (.exported .csv)
  else none

/-- How the understanding of a query is printed. -/
inductive View where
  | json
  | outline
  | words
  deriving DecidableEq, Repr

/-- The view of a name. -/
def View.ofText? (text : String) : Option View :=
  if text = "json" then some .json
  else if text = "debug" then some .outline
  else if text = "pretty" then some .words
  else none

/-- Where a query finds its data and where its result goes. -/
structure Delivery where
  file : Option String
  layout : Layout
  output : Option String
  deriving DecidableEq, Repr

/-- What is asked for. -/
inductive Command where
  | exec (query : String) (delivery : Delivery)
  | run (queryFile : String) (delivery : Delivery)
  | parse (query : String) (view : View)
  | ingest (file : String)
  | queries
  deriving DecidableEq, Repr

namespace Command

/-- The help. -/
def help : String :=
  "Run SELECT-style queries against sample tables or CSV/JSON files\n\n" ++
  "Usage: " ++ Program.commandName ++ " [--verbose] <COMMAND>\n\n" ++
  "Commands:\n" ++
  "  exec <QUERY>    [--file F] [--format table|json|csv] [--output F]\n" ++
  "  run <SQL_FILE>  [--file F] [--format table|json|csv] [--output F]\n" ++
  "  parse <QUERY>   [--format json|debug|pretty]\n" ++
  "  ingest <FILE>\n" ++
  "  queries\n"

/-- The words that can follow the name of a command that runs a query, which is given by an operand
of some kind. -/
def runUsage (accepts : String → Bool) : Usage where
  switches := ["verbose"]
  options :=
    [("file", isPath), ("format", fun text => (Layout.ofText? text).isSome), ("output", isPath)]
  operands := [accepts]
  hasVersion := false

/-- The words that can follow `parse`. -/
def parseUsage : Usage where
  switches := ["verbose"]
  options := [("format", fun text => (View.ofText? text).isSome)]
  operands := [fun _ => true]
  hasVersion := false

/-- The words that can follow a command without options. -/
def plainUsage (operands : List (String → Bool)) : Usage where
  switches := ["verbose"]
  options := []
  operands
  hasVersion := false

/-- The delivery that options ask for. -/
def deliveryOf (given : Given) : Delivery where
  file := given.values.get? "file"
  layout := ((given.values.get? "format").bind Layout.ofText?).getD .table
  output := given.values.get? "output"

/-- The view that an option asks for. -/
def viewOf (given : Given) : View := ((given.values.get? "format").bind View.ofText?).getD .words

/-- The command made of what its words give, if it has its one operand. -/
def withOperand (usage : Usage) (words : List String) (make : Given → String → Command) :
    Except Detour Command :=
  match usage.read .nothing words with
  | .error detour => .error detour
  | .ok given =>
    match given.operands with
    | [operand] => .ok (make given operand)
    | _ => .error .misuse

/-- The names of the commands. -/
def names : List String := ["exec", "run", "parse", "ingest", "queries", "help"]

/-- The command of a name and the words that follow it. -/
def ofName (name : String) (words : List String) : Except Detour Command :=
  match name with
  | "exec" =>
    withOperand (runUsage fun _ => true) words fun given query => .exec query (deliveryOf given)
  | "run" => withOperand (runUsage isPath) words fun given file => .run file (deliveryOf given)
  | "parse" => withOperand parseUsage words fun given query => .parse query (viewOf given)
  | "ingest" => withOperand (plainUsage [isPath]) words fun _ file => .ingest file
  | "queries" =>
    match (plainUsage []).read .nothing words with
    | .error detour => .error detour
    | .ok _ => .ok .queries
  | "help" => .error (if words.all names.contains ∧ words.length ≤ 1 then .help else .misuse)
  | _ => .error .misuse

/-- The words that can stand in front of the name of a command. -/
def topUsage : Usage where
  switches := ["verbose"]
  options := []
  operands := []
  hasVersion := true

/-- The command that words ask for, after those that have `given` something already. -/
def ofWordsAfter (given : Given) : List String → Except Detour Command
  | [] => .error .misuse
  | text :: rest =>
    match Word.ofText text with
    | .operand name => ofName name rest
    | .divider => .error .misuse
    | .short letters => .error (topUsage.short letters)
    | .long _ (some _) => .error .misuse
    | .long name none =>
      match topUsage.long given name with
      | .error detour => .error detour
      | .ok given => ofWordsAfter given rest

/-- The command that words ask for. -/
def ofWords (words : List String) : Except Detour Command := ofWordsAfter .nothing words

end Command

end RowQuery.Console
