import MacroBody.Files
import MacroBody.Settings.Decode
import MacroBody.Settings.Path
import MacroBody.Toml.Reader

/-!
# Settings

Settings are built from layers: the built-in defaults, then files, then overrides of single keys.
Files are laid over the defaults in the order in which they are given, and overrides over the files,
whatever their place among the layers. A later layer of the same rank wins.
-/

namespace MacroBody

/-- The settings of a scan. -/
structure Settings where
  order : List Kind
  terminator : Text
  commentStart : Text
  skipBlank : Bool
  allowNestedBlocks : Bool
  deriving DecidableEq, Repr

/-- A layer over the defaults. -/
inductive Layer
  /-- A file that has to be there. -/
  | file (name : Text)
  /-- A file that may be missing. -/
  | optionalFile (name : Text)
  /-- The value of one key. -/
  | override (key : Text) (value : Setting)

namespace Settings

/-- The built-in settings. -/
def defaults : Setting :=
  .table [
    ("dispatch".toList, .table [
      ("order".toList, .list (Kind.defaultOrder.map fun k => .ofText k.name) none)]),
    ("scan".toList, .table [
      ("terminator".toList, .ofText ";".toList),
      ("comment_prefix".toList, .ofText "//".toList),
      ("skip_blank".toList, .ofBool true),
      ("allow_nested_blocks".toList, .ofBool true)])]

/-- The fields of the section on scanning. -/
def scanFields : List Text :=
  ["terminator".toList, "comment_prefix".toList, "skip_blank".toList,
    "allow_nested_blocks".toList]

/-- Reads the settings off a tree. -/
def ofTree (tree : Setting) : Except SettingsError Settings := do
  let dispatch := (tree.get? "dispatch".toList).getD .nil
  let (_, order) ←
    dispatch.field "dispatch".toList "DispatchConfig".toList ["order".toList] 0
  let order ← order.toKinds
  let scan := (tree.get? "scan".toList).getD .nil
  let field := fun index => scan.field "scan".toList "ScanConfig".toList scanFields index
  let (key, value) ← field 0
  let terminator ← value.toText key
  let (key, value) ← field 1
  let commentStart ← value.toText key
  let (key, value) ← field 2
  let skipBlank ← value.toBool key
  let (key, value) ← field 3
  let allowNestedBlocks ← value.toBool key
  .ok ⟨order, terminator, commentStart, skipBlank, allowNestedBlocks⟩

/-- The paths at which the file of a name is looked for: the name itself, and the name with the
extension of settings documents. -/
def candidates (name : Text) : List Text :=
  [name, (name.reverse.dropWhile (· = '/')).reverse ++ ".toml".toList]

/-- The first file that a name stands for, with its path. -/
def findFile? (look : Text → Lookup) (name : Text) : Option (Text × Text) :=
  (candidates name).findSome? fun path =>
    (look path).content?.map fun content => (tidyPath path, content)

/-- The settings in a file that is there. -/
def readFile (path content : Text) : Except SettingsError (List (Text × Setting)) :=
  match Toml.read? content with
  | some entries => .ok (Setting.ofEntries (some path) entries)
  | none => .error (.malformed path)

/-- Lays the entries of a file over a tree. A key of the file may be a path. -/
def layFile (entries : List (Text × Setting)) (tree : Setting) : Setting :=
  entries.foldl
    (fun tree (key, value) =>
      Setting.assign value ((PathStep.read? key).getD [.key key]) tree)
    tree

/-- Lays a file layer over a tree. -/
def layLayer (look : Text → Lookup) (tree : Setting) : Layer → Except SettingsError Setting
  | .file name =>
    match findFile? look name with
    | some (path, content) => (readFile path content).map (layFile · tree)
    | none => .error (.unreadable name)
  | .optionalFile name =>
    match findFile? look name with
    | some (path, content) => (readFile path content).map (layFile · tree)
    | none => .ok tree
  | .override _ _ => .ok tree

/-- The overrides among the layers, with their keys read. -/
def overrides : List Layer → Except SettingsError (List (List PathStep × Setting))
  | [] => .ok []
  | .override key value :: rest =>
    match PathStep.read? key with
    | some path => (overrides rest).map ((path, value) :: ·)
    | none => .error .badKey
  | _ :: rest => overrides rest

/-- The tree that the layers make of the defaults. -/
def tree (look : Text → Lookup) (layers : List Layer) : Except SettingsError Setting := do
  let assigned ← overrides layers
  let fromFiles ← layers.foldlM (layLayer look) defaults
  .ok (assigned.foldl (fun tree (path, value) => Setting.assign value path tree) fromFiles)

/-- Builds the settings from layers. -/
def load (look : Text → Lookup) (layers : List Layer) : Except SettingsError Settings := do
  let tree ← tree look layers
  ofTree tree

/-- The options of a scan under these settings. An empty text switches its option off. -/
def scanOptions (s : Settings) : ScanOptions where
  order := s.order
  terminator := if s.terminator.isEmpty then none else some s.terminator
  commentStart := if s.commentStart.isEmpty then none else some s.commentStart
  skipBlank := s.skipBlank
  allowNestedBlocks := s.allowNestedBlocks

end Settings

end MacroBody
