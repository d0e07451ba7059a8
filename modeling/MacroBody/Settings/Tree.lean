import MacroBody.Text.Spelling
import MacroBody.Toml.Value

/-!
# Trees of settings

Settings from several sources are laid over one another in one tree. Tables merge key by key, and
every other value replaces what was there. Keys are compared without case. A value remembers the file
it came from; a merged table does not.
-/

namespace MacroBody

/-- A value without parts. -/
inductive Scalar
  | nil
  | boolean (b : Bool)
  | integer (n : Int)
  | float (f : Binary64)
  | text (t : Text)
  deriving DecidableEq, Repr

/-- A setting, or a tree of them. -/
inductive Setting
  | leaf (value : Scalar) (origin : Option Text)
  | list (items : List Setting) (origin : Option Text)
  | table (entries : List (Text × Setting))

namespace Setting

/-- A setting with no value. -/
def nil : Setting :=
  .leaf .nil none

instance : Inhabited Setting :=
  ⟨nil⟩

/-- A text that comes from no file. -/
def ofText (t : Text) : Setting :=
  .leaf (.text t) none

/-- A truth value that comes from no file. -/
def ofBool (b : Bool) : Setting :=
  .leaf (.boolean b) none

mutual

/-- The settings of a value of a document. -/
def ofValue (origin : Option Text) : Toml.Value → Setting
  | .text t => .leaf (.text t) origin
  | .integer n => .leaf (.integer n) origin
  | .float f => .leaf (.float f) origin
  | .boolean b => .leaf (.boolean b) origin
  | .array items => .list (ofValues origin items) origin
  | .table entries => .table (ofEntries origin entries)

/-- The settings of several values. -/
def ofValues (origin : Option Text) : List Toml.Value → List Setting
  | [] => []
  | v :: rest => ofValue origin v :: ofValues origin rest

/-- The settings of the entries of a table. -/
def ofEntries (origin : Option Text) : List (Text × Toml.Value) → List (Text × Setting)
  | [] => []
  | (key, v) :: rest => (key, ofValue origin v) :: ofEntries origin rest

end

/-- The entries of a table; anything else has none. -/
def entries : Setting → List (Text × Setting)
  | .table entries => entries
  | _ => []

/-- The setting of a key. -/
def get? (s : Setting) (key : Text) : Option Setting :=
  s.entries.lookup key

/-- The entries with the one for `key` changed, or made from nothing and added at the end. -/
def changeEntry (key : Text) (f : Option Setting → Setting) :
    List (Text × Setting) → List (Text × Setting)
  | [] => [(key, f none)]
  | (k, old) :: rest =>
    if k = key then (k, f (some old)) :: rest else (k, old) :: changeEntry key f rest

/-- The table with the setting of a key changed. Anything else is replaced by a table first. -/
def change (key : Text) (f : Option Setting → Setting) (s : Setting) : Setting :=
  .table (changeEntry (Text.toLower key) f s.entries)

/-- The list with one item changed, filled up so that there is such an item. Anything else is replaced
by a list first. A negative index counts from the end. -/
def changeItem (index : Int) (f : Setting → Setting) (s : Setting) : Setting :=
  let (items, origin) :=
    match s with
    | .list items origin => (items, origin)
    | _ => ([], none)
  let n := if 0 ≤ index then index.toNat else items.length - (-index).toNat
  let filled := items ++ List.replicate (n + 1 - items.length) nil
  .list (filled.modify n f) origin

mutual

/-- Lays a new setting over an old one. -/
def overlay : (new : Setting) → (old : Setting) → Setting
  | .table entries, old => overlayEntries entries old
  | new, _ => new

/-- Lays the entries of a table over an old setting. -/
def overlayEntries : List (Text × Setting) → (old : Setting) → Setting
  | [], old => old
  | (key, new) :: rest, old =>
    overlayEntries rest (old.change key fun found => overlay new (found.getD (.table [])))

end

end Setting

end MacroBody
