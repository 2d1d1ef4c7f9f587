import RowQuery.Keyed

/-!
# Command lines

The words of a command line, read against what a program takes: switches, options with a value, and
operands. A word that starts with a hyphen and is longer than one is never a value; a value may also
be joined to its option by an equals sign. After a double hyphen every word is an operand.
-/

namespace RowQuery.Console

/-- Why a command line does not lead to work: it asks for help or for the version, or it is not
understood. -/
inductive Detour where
  | help
  | version
  | misuse
  deriving DecidableEq, Repr

/-- A word by its shape. -/
inductive Word where
  | operand (text : String)
  | divider
  | long (name : String) (value : Option String)
  | short (letters : List Char)

/-- The shape of a word. -/
def Word.ofText (text : String) : Word :=
  match text.toList with
  | ['-'] => .operand text
  | ['-', '-'] => .divider
  | '-' :: '-' :: body =>
    let name := body.takeWhile (· != '=')
    match body.dropWhile (· != '=') with
    | [] => .long (String.ofList name) none
    | _ :: value => .long (String.ofList name) (some (String.ofList value))
  | '-' :: letters => .short letters
  | _ => .operand text

/-- What a program takes: the names of its switches, its options and its operands, the latter two
with the values that they accept. -/
structure Usage where
  switches : List String
  options : Keyed (String → Bool)
  operands : List (String → Bool)
  hasVersion : Bool

/-- What a command line gives. -/
structure Given where
  switches : List String
  values : Keyed String
  operands : List String

/-- Nothing given. -/
def Given.nothing : Given := ⟨[], [], []⟩

/-- A word taken as the next operand. -/
def Given.addOperand (usage : Usage) (given : Given) (text : String) : Except Detour Given :=
  match usage.operands[given.operands.length]? with
  | some accepts =>
    if accepts text then .ok { given with operands := given.operands ++ [text] }
    else .error .misuse
  | none => .error .misuse

/-- A value taken for an option. No option is given twice. -/
def Given.addValue (given : Given) (accepts : String → Bool) (name text : String) :
    Except Detour Given :=
  if given.values.has name ∨ accepts text = false then .error .misuse
  else .ok { given with values := given.values.put name text }

/-- A switch set. No switch is given twice. -/
def Given.addSwitch (given : Given) (name : String) : Except Detour Given :=
  if given.switches.contains name then .error .misuse
  else .ok { given with switches := given.switches ++ [name] }

/-- All words taken as operands. -/
def Given.addOperands (usage : Usage) (given : Given) : List String → Except Detour Given
  | [] => .ok given
  | text :: rest =>
    match given.addOperand usage text with
    | .error detour => .error detour
    | .ok given => given.addOperands usage rest

/-- What a word in single letters leads to. The first letter decides. -/
def Usage.short (usage : Usage) : List Char → Detour
  | 'h' :: _ => .help
  | 'V' :: _ => if usage.hasVersion then .version else .misuse
  | _ => .misuse

/-- What a long word without a value leads to, if it is no option. -/
def Usage.long (usage : Usage) (given : Given) (name : String) : Except Detour Given :=
  if usage.switches.contains name then given.addSwitch name
  else if name = "help" then .error .help
  else if name = "version" ∧ usage.hasVersion then .error .version
  else .error .misuse

/-- What the words give, in addition to what is given already. -/
def Usage.read (usage : Usage) (given : Given) : List String → Except Detour Given
  | [] => .ok given
  | text :: rest =>
    match Word.ofText text with
    | .operand text =>
      match given.addOperand usage text with
      | .error detour => .error detour
      | .ok given => usage.read given rest
    | .divider => given.addOperands usage rest
    | .short letters => .error (usage.short letters)
    | .long name value =>
      match usage.options.get? name, value, rest with
      | some accepts, some value, rest =>
        match given.addValue accepts name value with
        | .error detour => .error detour
        | .ok given => usage.read given rest
      | some accepts, none, next :: rest =>
        match Word.ofText next with
        | .operand value =>
          match given.addValue accepts name value with
          | .error detour => .error detour
          | .ok given => usage.read given rest
        | _ => .error .misuse
      | some _, none, [] => .error .misuse
      | none, some _, _ => .error .misuse
      | none, none, rest =>
        match usage.long given name with
        | .error detour => .error detour
        | .ok given => usage.read given rest

/-- A value that names a path. -/
def isPath (text : String) : Bool := text != ""

end RowQuery.Console
