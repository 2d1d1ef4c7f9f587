/-!
# The program

What the program says about itself.
-/

namespace RowQuery.Program

/-- The version. -/
def version : String := "0.1.0"

/-- The name of the command line program. -/
def commandName : String := "sqlrunner"

/-- The name of the server program. -/
def serverName : String := "sqlrunner-rest"

/-- What can be queried. -/
def features : List String := ["csv", "json", "sample"]

end RowQuery.Program
