import RowQuery.Console.Words
import RowQuery.Failure
import RowQuery.Program

/-!
# How a program ends

The exit status of a program and what it has printed, and how a failure is told: first what was
attempted, then what prevented it, and what prevented that.
-/

namespace RowQuery.Console

/-- What a run leaves: the exit status, the output, and the messages beside the output. -/
structure Outcome where
  status : Nat
  output : String
  messages : String
  deriving DecidableEq, Repr

/-- A failure as it is told, with its causes, nearest first. -/
structure Report where
  headline : String
  causes : List String
  deriving DecidableEq, Repr

namespace Report

/-- The causes that a failure names. -/
def causesOf (failure : Failure) : List String := failure.cause?.toList

/-- A failure told by itself. -/
def ofFailure (failure : Failure) : Report := ⟨failure.message, causesOf failure⟩

/-- A failure told as the cause of a failed attempt. -/
def ofAttempt (attempt : String) (failure : Failure) : Report :=
  ⟨attempt, failure.message :: causesOf failure⟩

/-- A text whose further lines are moved in by so many blanks. -/
def hanging (blanks : Nat) (text : String) : String :=
  String.ofList ((('\n' :: List.replicate blanks ' ').intercalate (text.toList.splitOn '\n')))

/-- Causes under their numbers, from `n` on. -/
def numbered (n : Nat) : List String → String
  | [] => ""
  | cause :: rest =>
    "\n" ++ "".pushn ' ' (5 - (toString n).length) ++ toString n ++ ": " ++ hanging 7 cause ++
      numbered (n + 1) rest

/-- The causes of a failure. Several are numbered. -/
def causesText : List String → String
  | [] => ""
  | [cause] => "\n\nCaused by:\n    " ++ hanging 4 cause
  | causes => "\n\nCaused by:" ++ numbered 0 causes

/-- The message that tells a failure. -/
def message (report : Report) : String :=
  "Error: " ++ report.headline ++ causesText report.causes ++ "\n"

end Report

/-- Why a run ends before its work is done. A breakdown is a failure that has no report. -/
inductive Ending where
  | detour (detour : Detour)
  | failed (report : Report)
  | broken (reason : String)
  deriving DecidableEq, Repr

/-- What a run leaves that ends early; `name` is the name of the program and `help` its help. -/
def Ending.outcome (name help : String) : Ending → Outcome
  | .detour .help => ⟨0, help, ""⟩
  | .detour .version => ⟨0, name ++ " " ++ Program.version ++ "\n", ""⟩
  | .detour .misuse => ⟨2, "", "error: the arguments are not understood\n\n" ++ help⟩
  | .failed report => ⟨1, "", report.message⟩
  | .broken reason => ⟨101, "", reason ++ "\n"⟩

end RowQuery.Console
