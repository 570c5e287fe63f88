import ScanCheck.Toml.Token

/-!
# Tables under construction

How headers and dotted keys define tables. Every table remembers how it came about, because that decides
what may still be added to it: a table on the way of a header may get a header of its own later, a table
made or extended by dotted keys may get more dotted keys, and a table or value that has been given as a
whole is closed. No entry is ever defined twice.
-/

namespace ScanCheck.Toml

inductive Origin
  | defined
  | passed
  /-- It was on the way of a dotted key, and has no header of its own. -/
  | dotted
deriving DecidableEq, Repr

inductive Node
  | closed (value : Toml)
  | table (origin : Origin) (entries : List (String × Node))
  /-- An array of tables, each begun by a header of its own; the last one is still open. -/
  | tables (earlier : List (List (String × Node))) (latest : List (String × Node))

abbrev Entries := List (String × Node)

mutual

def Node.value : Node → Toml
  | .closed value => value
  | .table _ entries => .table (finish entries)
  | .tables earlier latest => .array (finishAll earlier ++ [.table (finish latest)])

def finish : List (String × Node) → List (String × Toml)
  | [] => []
  | (name, node) :: rest => (name, node.value) :: finish rest

def finishAll : List (List (String × Node)) → List Toml
  | [] => []
  | entries :: rest => .table (finish entries) :: finishAll rest

end

/-- Puts an entry in the place of the one of the same name, or at the end. -/
def put (name : String) (node : Node) : Entries → Entries
  | [] => [(name, node)]
  | (key, old) :: rest => if key = name then (name, node) :: rest else (key, old) :: put name node rest

/-- Changes the table at the end of a way. Tables that are missing on the way are made. A header may pass
through every table and through the last table of an array, a dotted key only through tables without
a header of their own, which it claims for dotted keys, and through the last table of an array. -/
def within (byKey : Bool) (edit : Origin → Entries → Option Entries) :
    List String → Origin → Entries → Option Entries
  | [], origin, entries => edit origin entries
  | name :: way, _, entries =>
    match entries.lookup name with
    | none => do
      let origin := if byKey then Origin.dotted else .passed
      some (put name (.table origin (← within byKey edit way origin [])) entries)
    | some (.table origin inner) =>
      if byKey ∧ origin = .defined then none
      else do
        let origin := if byKey then .dotted else origin
        some (put name (.table origin (← within byKey edit way origin inner)) entries)
    | some (.tables earlier latest) => do
      some (put name (.tables earlier (← within byKey edit way .defined latest)) entries)
    | some (.closed _) => none

def assign (path : Path) (value : Toml) (entries : Entries) : Option Entries :=
  let byKey := !path.tables.isEmpty
  within byKey (fun origin inner =>
    if (origin == .dotted) != byKey then none
    else if (inner.lookup path.name).isSome then none
    else some (inner ++ [(path.name, .closed value)])) path.tables .defined entries

/-- A header: of a table, or of the next table of an array. -/
structure Header where
  path : Path
  repeated : Bool

/-- A document under construction: the tables that are complete, and the one to which keys are added. -/
structure Draft where
  complete : Entries
  header : Option Header
  current : Entries

def Draft.empty : Draft := ⟨[], none, []⟩

def Draft.close (draft : Draft) : Option Entries :=
  match draft.header with
  | none => some draft.current
  | some header =>
    within false (fun _ inner =>
      let name := header.path.name
      match header.repeated, inner.lookup name with
      | true, none => some (put name (.tables [] draft.current) inner)
      | true, some (.tables earlier latest) =>
        some (put name (.tables (earlier ++ [latest]) draft.current) inner)
      | true, some _ => none
      | false, none => some (put name (.table .defined draft.current) inner)
      | false, some _ => none) header.path.tables .defined draft.complete

/-- The entry that a header names, and the tables around it without that entry. -/
def detach (header : Header) (entries : Entries) : Option (Entries × Option Node) := do
  let path := header.path
  let without ← within false (fun _ inner => some (inner.filter (·.1 ≠ path.name))) path.tables .defined
    entries
  some (without, find path.tables path.name entries)
where
  find : List String → String → Entries → Option Node
    | [], name, entries => entries.lookup name
    | step :: way, name, entries =>
      match entries.lookup step with
      | some (.table _ inner) => find way name inner
      | some (.tables _ latest) => find way name latest
      | _ => none

/-- Begins the table of a header. A table that has only been passed so far keeps its entries. -/
def Draft.enter (draft : Draft) (header : Header) : Option Draft := do
  let entries ← draft.close
  if header.repeated then some ⟨entries, some header, []⟩
  else
    match ← detach header entries with
    | (_, none) => some ⟨entries, some header, []⟩
    | (without, some (.table .passed inner)) => some ⟨without, some header, inner⟩
    | _ => none

def Draft.add (draft : Draft) (path : Path) (value : Toml) : Option Draft :=
  (assign path value draft.current).map fun current => { draft with current }

end ScanCheck.Toml
