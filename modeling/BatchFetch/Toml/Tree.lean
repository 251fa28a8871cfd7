import BatchFetch.Toml.Value

/-! # TOML tables in the making

While a document is read, a table remembers how it came about: by a header or a key of several parts
that passes through it (implicit), by such a key (dotted), or by a header of its own. This settles what
may still be added to it, since no table is defined twice. -/

namespace BatchFetch.Toml

/-- What stands under a key. -/
inductive Entry where
  | value (v : Toml)
  | table (implicit dotted : Bool) (members : List (String × Entry))
  /-- The tables of an array that is written by headers; the last one is still growing. -/
  | tables (items : List (List (String × Entry)))

/-- The entries of a table. -/
abbrev Entries := List (String × Entry)

def Entry.toValue : Entry → Toml
  | .value v => v
  | .table _ _ members => .table (values members)
  | .tables items => .array (rows items)
where
  values : Entries → List (String × Toml)
    | [] => []
    | (k, e) :: rest => (k, e.toValue) :: values rest
  rows : List Entries → List Toml
    | [] => []
    | es :: rest => .table (values es) :: rows rest

namespace Entries

/-- Puts an entry under a key, in the place of an older one. -/
def put (k : String) (e : Entry) (es : Entries) : Entries :=
  if es.any (·.1 == k) then es.map fun x => if x.1 == k then (k, e) else x else es ++ [(k, e)]

/-- Changes the table at a path. Tables on the way are made if they are missing; a path of a key with
    several parts (`dotted`) does not lead through a table that has a header. The change is told whether
    the table came about by such a key. -/
def change (dotted : Bool) (f : Bool → Entries → Option Entries) (here : Bool) :
    List String → Entries → Option Entries
  | [], es => f here es
  | k :: ks, es =>
    match es.lookup k with
    | none => (change dotted f dotted ks []).map fun inner => es.put k (.table true dotted inner)
    | some (.value _) => none
    | some (.table implicit d inner) =>
      if dotted && !implicit then none
      else (change dotted f d ks inner).map fun inner => es.put k (.table implicit d inner)
    | some (.tables items) =>
      match items.getLast? with
      | none => none
      | some last =>
        (change dotted f false ks last).map fun last => es.put k (.tables (items.dropLast ++ [last]))

/-- Adds a value under a key of several parts, the last of which is `k`. -/
def insert (path : List String) (k : String) (v : Toml) (es : Entries) : Option Entries :=
  change true (fun dotted inner =>
    -- A key of several parts adds only to tables that such keys made.
    if dotted = path.isEmpty ∨ inner.any (·.1 == k) then none else some (inner ++ [(k, .value v)]))
    false path es

def insertAll (pairs : List (List String × Toml)) (es : Entries) : Option Entries :=
  pairs.foldlM (fun es (path, v) => (path.getLast?).bind fun k => es.insert path.dropLast k v) es

def addTable (path : List String) (k : String) (pairs : List (List String × Toml)) (es : Entries) :
    Option Entries :=
  change false (fun _ inner =>
    match inner.lookup k with
    | none => (insertAll pairs []).map fun t => inner.put k (.table false false t)
    | some (.table true false t) => (insertAll pairs t).map fun t => inner.put k (.table false false t)
    | _ => none) false path es

/-- Adds a table to an array that is written by headers. -/
def addRow (path : List String) (k : String) (pairs : List (List String × Toml)) (es : Entries) :
    Option Entries :=
  change false (fun _ inner =>
    match inner.lookup k with
    | none => (insertAll pairs []).map fun t => inner.put k (.tables [t])
    | some (.tables items) => (insertAll pairs []).map fun t => inner.put k (.tables (items ++ [t]))
    | _ => none) false path es

def toTable (es : Entries) : List (String × Toml) := Entry.toValue.values es

end Entries

end BatchFetch.Toml
