import RowQuery.Console.Outcome
import RowQuery.File.Load
import RowQuery.Service.Address
import RowQuery.Service.Perform
import RowQuery.Text.Integer

/-!
# Starting the service

The words that tell the service how to run, and what has to be in order before it can listen: the
file that sessions start with, then the origins that may call, then the host.
-/

namespace RowQuery.Service

open RowQuery.Console (Detour Ending Given Report Usage)

/-- How the service is to run. -/
structure Startup where
  host : String
  socket : Nat
  origins : String
  maxRows : Nat
  timeout : UInt64
  megabytes : UInt64
  data : Option String

/-- The help. -/
def startupHelp : String :=
  "sqlrunner REST API Server\n\n" ++
  "Usage: " ++ Program.serverName ++ " [OPTIONS]\n\n" ++
  "Options:\n" ++
  "  --host H             [default: 127.0.0.1]\n" ++
  "  --port N             [default: 3335]\n" ++
  "  --cors-origin LIST   [default: *]\n" ++
  "  --max-rows N         [default: 10000]\n" ++
  "  --session-timeout N  [default: 30]\n" ++
  "  --max-upload-mb N    [default: 100]\n" ++
  "  --load-data FILE\n"

/-- A number of at most 64 bits. -/
def word? (text : String) : Option Nat := Text.baseWord? 10 text.toList

/-- The number of a socket of the host. A minus sign is allowed in front of zero. -/
def socket? (text : String) : Option Nat :=
  match text.toList with
  | '-' :: c :: digits => (Text.baseDigits? 10 0 (c :: digits)).filter (· = 0)
  | text => (Text.baseWord? 10 text).filter (· < 0x10000)

/-- The words that the service takes. -/
def startupUsage : Usage where
  switches := []
  options :=
    [("host", fun _ => true), ("port", fun text => (socket? text).isSome),
     ("cors-origin", fun _ => true), ("max-rows", fun text => (word? text).isSome),
     ("session-timeout", fun text => (word? text).isSome),
     ("max-upload-mb", fun text => (word? text).isSome), ("load-data", Console.isPath)]
  operands := []
  hasVersion := true

/-- The number given under a name, or a default. -/
def givenNumber (given : Given) (read? : String → Option Nat) (name : String) (default : Nat) :
    Nat :=
  ((given.values.get? name).bind read?).getD default

/-- How the service is to run by what is given. -/
def Startup.ofGiven (given : Given) : Startup where
  host := (given.values.get? "host").getD "127.0.0.1"
  socket := givenNumber given socket? "port" 3335
  origins := (given.values.get? "cors-origin").getD "*"
  maxRows := givenNumber given word? "max-rows" 10000
  timeout := UInt64.ofNat (givenNumber given word? "session-timeout" 30)
  megabytes := UInt64.ofNat (givenNumber given word? "max-upload-mb" 100)
  data := given.values.get? "load-data"

/-- How the service is to run by the words of a command line. -/
def Startup.ofWords (words : List String) : Except Detour Startup :=
  (startupUsage.read .nothing words).map Startup.ofGiven

/-- A service that is ready to listen. -/
structure Listener where
  address : String
  settings : Settings
  store : Store

/-- The data set that sessions start with. -/
def initialDataset (content : String → File.Content) :
    Option String → Except Ending (Option Dataset)
  | none => .ok none
  | some path =>
    match File.loadAt path (content path) with
    | .ok dataset => .ok (some dataset)
    | .error failure => .error (.failed (.ofFailure failure))

/-- Whether all origins are to be allowed by an item of a list, which cannot be. -/
def mixesAllOrigins (origins : String) : Bool :=
  origins != "*" && (origins.toList.splitOn ',').any fun origin => Text.trim origin == ['*']

/-- The service made ready, or why it cannot be. -/
def Startup.prepare (content : String → File.Content) (startup : Startup) :
    Except Ending Listener :=
  match initialDataset content startup.data with
  | .error ending => .error ending
  | .ok initial =>
    if mixesAllOrigins startup.origins then
      .error (.broken "the origin * cannot stand in a list")
    else if isHost startup.host then
      .ok
        { address := startup.host ++ ":" ++ toString startup.socket
          settings :=
            { maxRows := startup.maxRows
              bodyLimit := (startup.megabytes * 1024 * 1024).toNat
              initial }
          store := .ofMinutes startup.timeout }
    else .error (.failed ⟨"invalid socket address syntax", []⟩)

/-- The service that the words of a command line start, given what is met at each path. -/
def start (content : String → File.Content) (words : List String) : Except Ending Listener :=
  match Startup.ofWords words with
  | .error detour => .error (.detour detour)
  | .ok startup => startup.prepare content

/-- What is left of a service that cannot be started. -/
def startOutcome (content : String → File.Content) (words : List String) : Option Console.Outcome :=
  match start content words with
  | .ok _ => none
  | .error ending => some (ending.outcome Program.serverName startupHelp)

end RowQuery.Service
