import RowQuery.Console.Perform

/-!
# The command line program

Reads what a command needs, performs it, and prints or writes what it has made.
-/

namespace RowQuery.Console.Terminal

/-- How the system words an error. -/
def systemReport (error : IO.Error) : String :=
  match error with
  | .noFileOrDirectory _ code details => worded details code
  | .inappropriateType _ code details => worded details code
  | .permissionDenied _ code details => worded details code
  | .resourceExhausted _ code details => worded details code
  | .alreadyExists _ code details => worded details code
  | .invalidArgument _ code details => worded details code
  | .otherError code details => worded details code
  | other => other.toString
where
  worded (details : String) (code : UInt32) : String :=
    details ++ " (os error " ++ toString code ++ ")"

/-- What is met at a path. -/
def contentAt (path : String) : IO File.Content := do
  try
    let handle ← IO.FS.Handle.mk path .read
    return .ok (← handle.readBinToEnd).data.toList
  catch error => return .error (systemReport error)

/-- Writes the file of a product, if it has one, and tells what prevents it. -/
def writeFile (product : Product) : IO (Option String) := do
  match product.file with
  | none => return none
  | some (path, text) =>
    try
      IO.FS.writeFile path text
      return none
    catch error => return some (systemReport error)

/-- A time in milliseconds with two places. -/
def millisecondsText (nanoseconds : Nat) : String :=
  let hundredths := (nanoseconds + 5000) / 10000
  let places := toString (hundredths % 100)
  toString (hundredths / 100) ++ "." ++ "".pushn '0' (2 - places.length) ++ places

/-- Carries out the words of a command line. -/
def carryOut (words : List String) : IO Outcome := do
  match Command.ofWords words with
  | .error detour => return settle (.error (.detour detour))
  | .ok command =>
    let contents ← command.paths.mapM fun path => return (path, ← contentAt path)
    let content (path : String) : File.Content :=
      (contents.lookup path).getD (.error Folder.Obstacle.missing.message)
    let before ← IO.monoNanosNow
    match command.perform content with
    | .error ending => return settle (.error ending)
    | .ok product =>
      let after ← IO.monoNanosNow
      return settle (product.outcome (← writeFile product) (millisecondsText (after - before)))

end RowQuery.Console.Terminal

/-- Carries out the words, prints what they leave and ends with its status. -/
def main (words : List String) : IO UInt32 := do
  let outcome ← RowQuery.Console.Terminal.carryOut words
  IO.print outcome.output
  IO.eprint outcome.messages
  return outcome.status.toUInt32
