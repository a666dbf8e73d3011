import PageTelemetry.Toml

/-! A TOML document while it is being built: which tables may still grow, and by what. -/
namespace PageTelemetry.Toml

/-- How a table came about. -/
inductive Origin
  /-- By being on the way to another table's header. -/
  | implicit
  /-- By a dotted key. -/
  | dotted
  /-- By a header of its own. -/
  | header
  deriving DecidableEq, Repr

inductive Node
  | value (v : Toml)
  | table (origin : Origin) (entries : List (String × Node))
  /-- Tables of an array, of which the last is open. -/
  | tables (items : List (List (String × Node)))
  deriving Inhabited

abbrev Nodes := List (String × Node)

/-- Changes the node under a key; a new one goes to the end. -/
def Nodes.alter? (key : String) (f : Option Node → Option Node) : Nodes → Option Nodes
  | [] => (f none).map fun n => [(key,n)]
  | (k,n)::rest =>
    if k = key then (f (some n)).map fun n => (k,n)::rest
    else (alter? key f rest).map ((k,n)::·)

/-- Changes the table at a path, made on the way as far as it is missing. A dotted path does not
lead into a table that has a header, and no path leads into a value. -/
def Nodes.descend? (dotted : Bool) (act : Origin → Nodes → Option Nodes) :
    List String → Origin → Nodes → Option Nodes
  | [], origin, nodes => act origin nodes
  | key::path, _, nodes =>
    nodes.alter? key fun
      | none =>
        let origin := if dotted then Origin.dotted else .implicit
        (descend? dotted act path origin []).map (.table origin)
      | some (.value _) => none
      | some (.tables items) =>
        match items.getLast? with
        | none => none
        | some last =>
          (descend? dotted act path .header last).map fun last => .tables (items.dropLast ++ [last])
      | some (.table origin entries) =>
        if dotted && origin == .header then none
        else (descend? dotted act path origin entries).map (.table origin)

/-- Sets a key for the first time. -/
def Nodes.add? (key : String) (v : Toml) (nodes : Nodes) : Option Nodes :=
  nodes.alter? key fun
    | none => some (.value v)
    | some _ => none

/-- Sets a dotted key in an open table. Its last table has to have come about by dotted keys. -/
def Nodes.addDotted? (path : List String) (key : String) (v : Toml) (origin : Origin)
    (nodes : Nodes) : Option Nodes :=
  nodes.descend? true (fun o inner =>
    if (o == .dotted) == path.isEmpty then none else inner.add? key v) path origin

/-- Opens the table of a header: a new one, or one that was only on the way so far. -/
def Nodes.open? (path : List String) (key : String) (nodes : Nodes) : Option Nodes :=
  nodes.descend? false (fun _ inner =>
    inner.alter? key fun
      | none => some (.table .header [])
      | some (.table .implicit entries) => some (.table .header entries)
      | some _ => none) path .header

/-- Opens a further table of an array of tables. -/
def Nodes.openNext? (path : List String) (key : String) (nodes : Nodes) : Option Nodes :=
  nodes.descend? false (fun _ inner =>
    inner.alter? key fun
      | none => some (.tables [[]])
      | some (.tables items) => some (.tables (items ++ [[]]))
      | some _ => none) path .header

mutual

def Node.toToml : Node → Toml
  | .value v => v
  | .table _ entries => .table (nodesToToml entries)
  | .tables items => .array (tablesToToml items)

def nodesToToml : List (String × Node) → List (String × Toml)
  | [] => []
  | (key,n)::rest => (key,n.toToml)::nodesToToml rest

def tablesToToml : List (List (String × Node)) → List Toml
  | [] => []
  | entries::rest => .table (nodesToToml entries)::tablesToToml rest

end

end PageTelemetry.Toml
