import RowQuery.File.Load

/-!
# Folders

A folder held in memory: the files and folders in it, what is met when a path is read from it, and
what becomes of it when a path is written. A path that leads out of the folder meets only folders
there, about whose content nothing is known.
-/

namespace RowQuery

/-- What stands at a place. -/
inductive Entry where
  | file (octets : List UInt8)
  | folder

/-- The entries of a folder and of the folders in it, each under the names that lead to it, joined
by slashes. -/
abbrev Folder := Keyed Entry

namespace Folder

/-- Why a path cannot be read or written. -/
inductive Obstacle where
  | nulInPath
  | missing
  | notFolder
  | isFolder
  | nameTooLong
  deriving DecidableEq, Repr

/-- The report of an obstacle. -/
def Obstacle.message : Obstacle → String
  | .nulInPath => "file name contained an unexpected NUL byte"
  | .missing => "No such file or directory (os error 2)"
  | .notFolder => "Not a directory (os error 20)"
  | .isFolder => "Is a directory (os error 21)"
  | .nameTooLong => "File name too long (os error 36)"

/-- Where a path leads: to the place that the names lead to, or out of the folder. -/
inductive Spot where
  | inside (names : List String)
  | outside

/-- The spot that a part of a path leads to. A name leads nowhere known outside of the folder. -/
def Spot.follow (spot : Spot) (part : String) : Option Spot :=
  if part = "" ∨ part = "." then some spot
  else
    match spot with
    | .outside => if part = ".." then some .outside else none
    | .inside names =>
      if part = ".." then some (if names = [] then .outside else .inside names.dropLast)
      else some (.inside (names ++ [part]))

/-- What stands at a spot. -/
def entry? (folder : Folder) : Spot → Option Entry
  | .outside => some .folder
  | .inside [] => some .folder
  | .inside names => folder.get? ("/".intercalate names)

/-- How many octets a name may have. -/
def nameLimit : Nat := 255

/-- How many octets a path may have. -/
def pathLimit : Nat := 4095

/-- The spot that the parts of a path lead to; in front of each of them there must be a folder. -/
def walk (folder : Folder) (spot : Spot) : List String → Except Obstacle Spot
  | [] => .ok spot
  | part :: rest =>
    match folder.entry? spot with
    | none => .error .missing
    | some (.file _) => .error .notFolder
    | some .folder =>
      if nameLimit < part.utf8ByteSize then .error .nameTooLong
      else
        match spot.follow part with
        | none => .error .missing
        | some next => folder.walk next rest

/-- The parts of a path. -/
def parts (path : String) : List String := (path.toList.splitOn '/').map String.ofList

/-- The spot that a path starts from. -/
def start (path : String) : Spot := if path.front? = some '/' then .outside else .inside []

/-- The path, if it may name anything. This is looked at before any folder. -/
def accepted (path : String) : Except Obstacle String :=
  if path.toList.contains '\x00' then .error .nulInPath
  else if path.isEmpty then .error .missing
  else if pathLimit < path.utf8ByteSize then .error .nameTooLong
  else .ok path

/-- The octets of the file at a path. -/
def octetsAt (folder : Folder) (path : String) : Except Obstacle (List UInt8) :=
  match accepted path with
  | .error obstacle => .error obstacle
  | .ok path =>
    match folder.walk (start path) (parts path) with
    | .error obstacle => .error obstacle
    | .ok spot =>
      match folder.entry? spot with
      | none => .error .missing
      | some .folder => .error .isFolder
      | some (.file octets) => .ok octets

/-- What is met when a path is read. -/
def read (folder : Folder) (path : String) : File.Content :=
  (folder.octetsAt path).mapError Obstacle.message

/-- The folder after octets have been written at a path, in place of the file that was there. A path
that ends in a slash or in dots asks for a folder, which cannot be written. -/
def write (folder : Folder) (path : String) (octets : List UInt8) : Except Obstacle Folder :=
  match accepted path with
  | .error obstacle => .error obstacle
  | .ok path =>
    match (parts path).reverse.dropWhile (· = "") with
    | [] => .error .isFolder
    | last :: before =>
      match folder.walk (start path) (before.reverse ++ [""]) with
      | .error obstacle => .error obstacle
      | .ok spot =>
        if path.endsWith "/" ∨ last = "." ∨ last = ".." then .error .isFolder
        else if nameLimit < last.utf8ByteSize then .error .nameTooLong
        else
          match spot with
          | .outside => .error .missing
          | .inside names =>
            match folder.entry? (.inside (names ++ [last])) with
            | some .folder => .error .isFolder
            | _ => .ok (folder.put ("/".intercalate (names ++ [last])) (.file octets))

/-- The folder with an entry at the end of a way, and with the folders on it that were missing;
`before` holds the names in front. -/
def addBelow (entry : Entry) (folder : Folder) (before : List String) : List String → Folder
  | [] => folder
  | [name] => folder.put ("/".intercalate (before ++ [name])) entry
  | name :: rest =>
    let way := before ++ [name]
    let place := "/".intercalate way
    addBelow entry (if folder.has place then folder else folder.put place .folder) way rest

/-- The folder with an entry at a place, which is given by the names that lead to it. -/
def add (folder : Folder) (place : String) (entry : Entry) : Folder :=
  addBelow entry folder [] ((parts place).filter fun name => name ≠ "" ∧ name ≠ ".")

end Folder

end RowQuery
