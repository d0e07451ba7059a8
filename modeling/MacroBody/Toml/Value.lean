import MacroBody.Number.Binary64

/-!
# Settings documents

The values of a settings document and the tables they are collected in. While a document is read, a
table remembers how it came about, because a table may be opened by a header only once, and a table
made by a dotted key may not be opened by a header, nor the other way round.
-/

namespace MacroBody.Toml

/-- A value of a document. -/
inductive Value
  | text (t : Text)
  | integer (n : Int)
  | float (f : Binary64)
  | boolean (b : Bool)
  | array (items : List Value)
  | table (entries : List (Text × Value))

/-- How a table came about. -/
inductive Mark
  /-- By a header, or as the document itself. -/
  | header
  /-- On the way to a table that a header opens. -/
  | implied
  /-- By a dotted key. -/
  | dotted
  deriving DecidableEq, Repr

/-- What a key stands for while the document is read. -/
inductive Item
  | value (v : Value)
  | table (mark : Mark) (entries : List (Text × Item))
  /-- Tables that headers with two brackets add one after the other, last first. -/
  | tables (items : List (List (Text × Item)))

/-- The entries of a table that is being read. -/
abbrev Entries := List (Text × Item)

/-- The entries with the one for `key` replaced, or added at the end. -/
def Entries.put (key : Text) (item : Item) : Entries → Entries
  | [] => [(key, item)]
  | (k, old) :: rest => if k = key then (k, item) :: rest else (k, old) :: Entries.put key item rest

/-- Changes the table that `path` leads to. Tables that are missing on the way are made with the mark
`made`; a dotted key may not pass through a table that a header has opened. -/
def Entries.change (made : Mark) (f : Mark → Entries → Option Entries) :
    (path : List Text) → Mark → Entries → Option Entries
  | [], mark, entries => f mark entries
  | key :: path, _, entries =>
    match entries.lookup key with
    | none =>
      (Entries.change made f path made []).map fun inner => entries.put key (.table made inner)
    | some (.value _) => none
    | some (.tables []) => none
    | some (.tables (last :: before)) =>
      (Entries.change made f path .header last).map fun inner =>
        entries.put key (.tables (inner :: before))
    | some (.table mark inner) =>
      if made = .dotted && mark = .header then none
      else
        (Entries.change made f path mark inner).map fun inner =>
          entries.put key (.table mark inner)

/-- Sets the value of a key, of which all but the last part lead through tables. -/
def Entries.setValue (path : List Text) (key : Text) (v : Value) (entries : Entries) :
    Option Entries :=
  let insert := fun (mark : Mark) (inner : Entries) =>
    if decide (mark = .dotted) == !path.isEmpty && (inner.lookup key).isNone then
      some (inner.put key (.value v))
    else none
  Entries.change .dotted insert path .header entries

/-- Opens the table of a header. -/
def Entries.openTable (path : List Text) (key : Text) (entries : Entries) : Option Entries :=
  let opened := fun (_ : Mark) (inner : Entries) =>
    match inner.lookup key with
    | none => some (inner.put key (.table .header []))
    | some (.table .implied content) => some (inner.put key (.table .header content))
    | some _ => none
  Entries.change .implied opened path .header entries

/-- Adds a table for a header with two brackets. -/
def Entries.addTable (path : List Text) (key : Text) (entries : Entries) : Option Entries :=
  let added := fun (_ : Mark) (inner : Entries) =>
    match inner.lookup key with
    | none => some (inner.put key (.tables [[]]))
    | some (.tables items) => some (inner.put key (.tables ([] :: items)))
    | some _ => none
  Entries.change .implied added path .header entries

mutual

/-- The value that an item stands for once the document has been read. -/
def Item.toValue : Item → Value
  | .value v => v
  | .table _ entries => .table (Item.entriesToValues entries)
  | .tables items => .array (Item.tablesToValues items).reverse

/-- The values of the entries of a table. -/
def Item.entriesToValues : List (Text × Item) → List (Text × Value)
  | [] => []
  | (key, item) :: rest => (key, item.toValue) :: Item.entriesToValues rest

/-- The values of several tables. -/
def Item.tablesToValues : List (List (Text × Item)) → List Value
  | [] => []
  | entries :: rest => .table (Item.entriesToValues entries) :: Item.tablesToValues rest

end

end MacroBody.Toml
