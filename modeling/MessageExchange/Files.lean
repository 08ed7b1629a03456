import MessageExchange.Fault

/-! Reading files by path. All that a reader of files needs to know of the outside is what each path
leads to. -/

namespace MessageExchange

abbrev Files : Type := String → Except ReadFailure (List UInt8)

namespace Files

def text (files : Files) (path : String) : Except ReadFailure String := do
  let bytes ← files path
  match String.fromUTF8? ⟨bytes.toArray⟩ with
  | some s => .ok s
  | none => .error .notText

/-- Some paths cannot be followed, whatever there is. -/
def followable (path : String) : Except ReadFailure Unit :=
  if path.toList.contains '\x00' then .error .nulInPath
  else if path = "" then .error .missing
  else if 4096 ≤ path.utf8ByteSize then .error .nameTooLong
  else .ok ()

inductive Node
  | directory
  | file (content : List UInt8)

/-- The directories that every system has under its root. -/
def topLevel : List String :=
  ["bin", "boot", "dev", "etc", "home", "lib", "media", "mnt", "opt", "proc", "root", "run", "sbin",
    "srv", "sys", "tmp", "usr", "var"]

/-- Where the working directory is, innermost name first. -/
def workingDirectory : List String := ["gateway", "tmp"]

/-- What is at a place, given the files of the working directory. Of the rest of the system only the
directories at the top and the null device are known. -/
def node? (entries : List (String × List UInt8)) (place : List String) : Option Node :=
  if place = [] ∨ place = workingDirectory then some .directory
  else if place = ["null", "dev"] then some (.file [])
  else match place with
    | [name] => if topLevel.contains name then some .directory else none
    | name :: above =>
      if above = workingDirectory then (entries.lookup name).map .file else none
    | [] => none

/-- Follows the names of a path from a place on. Only a directory has anything below it, itself and
its parent included. -/
def walk (node? : List String → Option Node) (place : List String) :
    List String → Except ReadFailure Node
  | [] => match node? place with
    | some node => .ok node
    | none => .error .missing
  | name :: rest => match node? place with
    | none => .error .missing
    | some (.file _) => .error .notDirectory
    | some .directory =>
      if name = "" ∨ name = "." then walk node? place rest
      else if name = ".." then walk node? place.tail rest
      else if 255 < name.utf8ByteSize then .error .nameTooLong
      else walk node? (name :: place) rest

/-- A working directory with the given files and nothing else in it. -/
def ofDirectory (entries : List (String × List UInt8)) : Files := fun path => do
  followable path
  let start := if path.startsWith "/" then [] else workingDirectory
  match ← walk (node? entries) start (path.splitOn "/") with
  | .file content => .ok content
  | .directory => .error .isDirectory

end Files

end MessageExchange
