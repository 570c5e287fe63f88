import ScanCheck.Text.Utf8

namespace ScanCheck

inductive FileFault
  | notFound
  | notDirectory
  | isDirectory
  | notText
deriving DecidableEq, Repr

def FileFault.message : FileFault → String
  | .notFound => "No such file or directory (os error 2)"
  | .notDirectory => "Not a directory (os error 20)"
  | .isDirectory => "Is a directory (os error 21)"
  | .notText => "stream did not contain valid UTF-8"

abbrev ReadFile := String → Except FileFault Bytes

def ReadFile.text (readFile : ReadFile) (path : String) : Except FileFault String := do
  let bytes ← readFile path
  match bytes.text? with
  | some contents => .ok contents
  | none => .error .notText

inductive FileTree
  | file (content : Bytes)
  | directory (entries : List (String × FileTree))

namespace FileTree

def empty : FileTree := .directory []

/-- Adds a file at the end of a way through directories, which are made where they are missing. -/
def addFile (content : Bytes) : (way : List String) → (name : String) → FileTree → FileTree
  | _, _, .file old => .file old
  | [], name, .directory entries => .directory ((name, .file content) :: entries)
  | step :: way, name, .directory entries =>
    let inner := match entries.lookup step with
      | some (.directory below) => .directory below
      | _ => empty
    .directory ((step, addFile content way name inner) :: entries)

/-- Follows the steps of a path. `around` are the directories on the way back to the root. -/
def follow : (steps : List String) → (here : FileTree) → (around : List FileTree) →
    Except FileFault FileTree
  | [], here, _ => .ok here
  | _ :: _, .file _, _ => .error .notDirectory
  | step :: steps, .directory entries, around =>
    if step = "" ∨ step = "." then follow steps (.directory entries) around
    else if step = ".." then
      match around with
      | [] => follow steps empty []
      | parent :: around => follow steps parent around
    else
      match entries.lookup step with
      | some next => follow steps next (.directory entries :: around)
      | none => .error .notFound

def read (tree : FileTree) : ReadFile := fun path =>
  if path = "" then .error .notFound
  else do
    let start := if path.startsWith "/" then empty else tree
    match ← follow (path.splitOn "/") start [] with
    | .file content => .ok content
    | .directory _ => .error .isDirectory

end FileTree

end ScanCheck
