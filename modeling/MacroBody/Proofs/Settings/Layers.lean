import Mathlib
import MacroBody.Proofs.Settings.Fields

/-!
# Layers resolve by rank

Layers are given in any order, files and overrides mixed.  The value of a field is decided by rank
first: the last override of the field wins over every file, and the last file that sets it wins over
the built-in value (`resolve`).  So only the order of the files among themselves and the order of the
overrides among themselves count.

The key local facts are the two steps.  Laying a document over a tree that holds some settings gives a
tree that holds them after the assignments of the document (`Holds.layFile`), and so does a single
override (`Holds.override`).  No sibling of a key is lost on the way, because `Holds` speaks of every
field.
-/

namespace MacroBody

/-- Whether a layer is a file. -/
def Layer.isFile : Layer → Bool
  | file _ => true
  | optionalFile _ => true
  | override _ _ => false

namespace Settings

/-! ## Assignments one after the other -/

/-- The last value that assignments have for a field. -/
def lastValue? (as : List Assignment) (f : Field) : Option f.Value :=
  (as.filterMap (·.value? f)).getLast?

/-- What is decided by each step, or else left as it was, is decided by the last step that does. -/
theorem foldl_eq_getLast? {α β γ : Type} (view : α → γ) {step : α → β → α}
    {value? : β → Option γ} (h : ∀ a b, view (step a b) = (value? b).getD (view a)) (a : α)
    (bs : List β) : view (bs.foldl step a) = ((bs.filterMap value?).getLast?).getD (view a) := by
  induction bs generalizing a with
  | nil => rfl
  | cons b bs ih =>
      rw [List.foldl_cons, ih, h]
      cases hvalue : value? b with
      | none => rw [List.filterMap_cons_none hvalue, Option.getD_none]
      | some c =>
          rw [List.filterMap_cons_some hvalue, List.getLast?_cons, Option.getD_some,
            Option.getD_some]

/-- After some assignments a field has the last value that it was given, or the one it had. -/
theorem get_foldl_assign (s : Settings) (as : List Assignment) (f : Field) :
    (as.foldl assign s).get f = (lastValue? as f).getD (s.get f) :=
  foldl_eq_getLast? (·.get f) (fun s a => get_assign s a f) s as

/-- Assignments to one part leave the fields of the other as they were. -/
theorem get_foldl_assign_of_part {part : Part} {as : List Assignment}
    (hpart : ∀ a ∈ as, a.field.part = part) (s : Settings) {f : Field} (hf : f.part ≠ part) :
    (as.foldl assign s).get f = s.get f := by
  have hnone : as.filterMap (·.value? f) = [] := by
    rw [List.filterMap_eq_nil_iff]
    intro a ha
    exact Assignment.value?_of_ne fun hfield => hf (hfield ▸ hpart a ha)
  rw [get_foldl_assign, lastValue?, hnone]
  rfl

/-! ## Documents -/

/-- A table of a settings document. It has values for fields of one part. -/
structure Table where
  part : Part
  assignments : List Assignment
  part_of_mem : ∀ a ∈ assignments, a.field.part = part

/-- A settings document that sets some of the fields. -/
structure Document where
  tables : List Table

/-- An assignment as an entry of a table. -/
def Assignment.entry (a : Assignment) : Text × Toml.Value :=
  (a.field.name, a.field.document a.value)

namespace Document

/-- The entries of a document. -/
def entries (d : Document) : List (Text × Toml.Value) :=
  d.tables.map fun t => (t.part.name, .table (t.assignments.map Assignment.entry))

/-- The assignments of a document. -/
def assignments (d : Document) : List Assignment :=
  d.tables.flatMap Table.assignments

/-- The value that a document sets for a field. -/
def value? (d : Document) (f : Field) : Option f.Value :=
  lastValue? d.assignments f

/-- The name leads to a file with this document. -/
def StandsAt (d : Document) (look : Text → Lookup) (name : Text) : Prop :=
  ∃ path content, findFile? look name = some (path, content) ∧
    Toml.read? content = some d.entries

end Document

section

variable {s : Settings} {part : Part} {inner tree : Setting} {d : Document}

/-- A table that is laid over a part is held there. -/
theorem Part.Holds.overlay (h : part.Holds s inner) (origin : Option Text)
    (as : List Assignment) :
    part.Holds (as.foldl assign s)
      (Setting.overlayEntries (Setting.ofEntries origin (as.map Assignment.entry)) inner) := by
  induction as generalizing s inner with
  | nil => exact h
  | cons a as ih =>
      -- No value of a field is a table, so nothing of an old value shows through.
      have hvalue : (fun found : Option Setting =>
          Setting.overlay (.ofValue origin (a.field.document a.value)) (found.getD (.table []))) =
            fun _ => a.field.setting origin a.value :=
        funext fun found => a.field.overlay_setting origin a.value _
      rw [List.foldl_cons, List.map_cons, Assignment.entry, Setting.ofEntries,
        Setting.overlayEntries, hvalue]
      exact ih (h.change origin a)

/-- **A document sets its fields** in the tree over which it is laid, and no others. -/
theorem Holds.layFile (h : Holds s tree) (d : Document) (origin : Option Text) :
    Holds (d.assignments.foldl assign s)
      (Settings.layFile (Setting.ofEntries origin d.entries) tree) := by
  obtain ⟨tables⟩ := d
  induction tables generalizing s tree with
  | nil => exact h
  | cons t tables ih =>
      have htable : Holds (t.assignments.foldl assign s) (tree.change t.part.name fun found =>
          Setting.overlay (.table (Setting.ofEntries origin (t.assignments.map Assignment.entry)))
            (found.getD (.table []))) := by
        refine h.change t.part (fun inner hinner => hinner.overlay origin t.assignments)
          fun f hf => ?_
        exact get_foldl_assign_of_part t.part_of_mem s hf
      have hpath : (PathStep.read? t.part.name).getD [.key t.part.name] = [.key t.part.name] := by
        rw [t.part.read?_name, Option.getD_some]
      rw [Document.assignments, List.flatMap_cons, List.foldl_append]
      simp only [Settings.layFile, Document.entries, List.map_cons, Setting.ofEntries,
        List.foldl_cons, hpath]
      exact ih htable

/-- **An override sets its field** and no other. -/
theorem Holds.override (h : Holds s tree) (a : Assignment) :
    Holds (s.assign a) (Setting.assign (a.field.setting none a.value)
      [.key a.field.part.name, .key a.field.name] tree) := by
  refine h.change a.field.part (fun inner hinner => ?_) fun f hf => ?_
  · have hvalue : Setting.assign (a.field.setting none a.value) [.key a.field.name] inner =
        inner.change a.field.name fun _ => a.field.setting none a.value := by
      simp [Setting.assign]
    rw [Option.getD_some, hvalue]
    exact hinner.change none a
  · rw [get_assign, Assignment.value?_of_ne fun hfield => hf (hfield ▸ rfl)]
    rfl

/-- Overrides keep the tree in step with the settings that it holds. -/
theorem Holds.overrides (h : Holds s tree) (as : List Assignment) :
    Holds (as.foldl assign s)
      (as.foldl (fun tree a => Setting.assign (a.field.setting none a.value)
        [.key a.field.part.name, .key a.field.name] tree) tree) := by
  induction as generalizing s tree with
  | nil => exact h
  | cons a as ih => exact ih (h.override a)

end

/-! ## Layers that can be laid -/

variable {look : Text → Lookup}

/-- A layer that can be laid: a file that is there and sets some of the fields, an optional file that
is not there, or an override of a field. -/
inductive ValidLayer (look : Text → Lookup)
  | file (name : Text) (d : Document) (h : d.StandsAt look name)
  | optionalFile (name : Text) (d : Document) (h : d.StandsAt look name)
  | missing (name : Text) (h : findFile? look name = none)
  | override (a : Assignment)

namespace ValidLayer

/-- The layer itself. -/
def layer : ValidLayer look → Layer
  | file name _ _ => .file name
  | optionalFile name _ _ => .optionalFile name
  | missing name _ => .optionalFile name
  | override a => .override a.field.key (a.field.setting none a.value)

/-- The document of a file that is there. -/
def document? : ValidLayer look → Option Document
  | file _ d _ => some d
  | optionalFile _ d _ => some d
  | missing _ _ => none
  | override _ => none

/-- The assignment of an override. -/
def override? : ValidLayer look → Option Assignment
  | override a => some a
  | _ => none

end ValidLayer

/-- The value that layers give to a field: that of the last override of the field, or else that of
the last file that sets it, or else the built-in one. -/
def resolve (valid : List (ValidLayer look)) (f : Field) : f.Value :=
  ((lastValue? (valid.filterMap ValidLayer.override?) f).or
    ((valid.filterMap ValidLayer.document?).filterMap (·.value? f)).getLast?).getD (builtIn.get f)

/-- The settings after a document. -/
def assignDocument (s : Settings) (d : Document) : Settings :=
  d.assignments.foldl assign s

/-- The settings that layers make of the built-in ones: first the files, then the overrides. -/
def settled (valid : List (ValidLayer look)) : Settings :=
  (valid.filterMap ValidLayer.override?).foldl assign
    ((valid.filterMap ValidLayer.document?).foldl assignDocument builtIn)

section

variable {s : Settings} {tree : Setting} {name : Text} {d : Document}

/-- A file that is there is laid over the tree. -/
theorem Document.StandsAt.exists_laid (hd : d.StandsAt look name) (h : Holds s tree) :
    ∃ tree', layLayer look tree (.file name) = .ok tree' ∧
      layLayer look tree (.optionalFile name) = .ok tree' ∧ Holds (s.assignDocument d) tree' := by
  obtain ⟨path, content, hfile, hread⟩ := hd
  refine ⟨_, ?_, ?_, h.layFile d (some path)⟩
  · simp [layLayer, hfile, readFile, hread, Except.map]
  · simp [layLayer, hfile, readFile, hread, Except.map]

/-- **The files are laid in their order.** -/
theorem exists_foldlM_layLayer (valid : List (ValidLayer look)) (h : Holds s tree) :
    ∃ tree', (valid.map ValidLayer.layer).foldlM (layLayer look) tree = .ok tree' ∧
      Holds ((valid.filterMap ValidLayer.document?).foldl assignDocument s) tree' := by
  induction valid generalizing s tree with
  | nil => exact ⟨tree, rfl, h⟩
  | cons first valid ih =>
      rw [List.map_cons, List.foldlM_cons]
      cases first with
      | file name d hd =>
          obtain ⟨next, hlaid, -, hnext⟩ := hd.exists_laid h
          rw [ValidLayer.layer, hlaid]
          exact ih hnext
      | optionalFile name d hd =>
          obtain ⟨next, -, hlaid, hnext⟩ := hd.exists_laid h
          rw [ValidLayer.layer, hlaid]
          exact ih hnext
      | missing name hmissing =>
          have hlaid : layLayer look tree (.optionalFile name) = .ok tree := by
            simp [layLayer, hmissing]
          rw [ValidLayer.layer, hlaid]
          exact ih h
      | override a =>
          -- An override has its turn after all files.
          exact ih h

end

/-- The overrides are found in their order. -/
theorem overrides_layers (valid : List (ValidLayer look)) :
    overrides (valid.map ValidLayer.layer) =
      .ok ((valid.filterMap ValidLayer.override?).map fun a =>
        ([.key a.field.part.name, .key a.field.name], a.field.setting none a.value)) := by
  induction valid with
  | nil => rfl
  | cons first valid ih =>
      rw [List.map_cons]
      cases first with
      | file name d hd => exact ih
      | optionalFile name d hd => exact ih
      | missing name hmissing => exact ih
      | override a => simp [ValidLayer.layer, overrides, ValidLayer.override?, ih, Except.map]

/-- **Layers that can be laid make settings.** -/
theorem load_eq_settled (valid : List (ValidLayer look)) :
    load look (valid.map ValidLayer.layer) = .ok (settled valid) := by
  obtain ⟨fromFiles, hfiles, hholds⟩ := exists_foldlM_layLayer valid holds_defaults
  have htree := hholds.overrides (valid.filterMap ValidLayer.override?)
  simp only [load, tree, overrides_layers, hfiles, bind, Except.bind, List.foldl_map]
  exact ofTree_of_holds htree

/-- The value of a field is decided by rank. -/
theorem get_settled (valid : List (ValidLayer look)) (f : Field) :
    (settled valid).get f = resolve valid f := by
  have hfiles : ((valid.filterMap ValidLayer.document?).foldl assignDocument builtIn).get f =
      (((valid.filterMap ValidLayer.document?).filterMap (·.value? f)).getLast?).getD
        (builtIn.get f) :=
    foldl_eq_getLast? (·.get f) (fun s d => get_foldl_assign s d.assignments f) builtIn _
  rw [settled, get_foldl_assign, hfiles, resolve]
  cases lastValue? (valid.filterMap ValidLayer.override?) f <;> rfl

/-! ## The order of layers of different ranks -/

/-- Files are no overrides. -/
theorem overrides_filter (layers : List Layer) :
    overrides (layers.filter (!·.isFile)) = overrides layers := by
  induction layers with
  | nil => rfl
  | cons layer layers ih =>
      cases layer with
      | file name => exact ih
      | optionalFile name => exact ih
      | override key value =>
          rw [List.filter_cons_of_pos rfl, overrides, overrides, ih]

/-- Only files are laid over one another; overrides come after all of them. -/
theorem foldlM_filter (layers : List Layer) (tree : Setting) :
    (layers.filter Layer.isFile).foldlM (layLayer look) tree =
      layers.foldlM (layLayer look) tree := by
  induction layers generalizing tree with
  | nil => rfl
  | cons layer layers ih =>
      cases layer with
      | override key value => exact ih tree
      | file name =>
          rw [List.filter_cons_of_pos rfl, List.foldlM_cons, List.foldlM_cons]
          exact bind_congr ih
      | optionalFile name =>
          rw [List.filter_cons_of_pos rfl, List.foldlM_cons, List.foldlM_cons]
          exact bind_congr ih

/-- **Only the order within a rank counts**, whether the layers can be laid or not. -/
theorem load_congr {layers layers' : List Layer}
    (hfiles : layers.filter Layer.isFile = layers'.filter Layer.isFile)
    (hoverrides : layers.filter (!·.isFile) = layers'.filter (!·.isFile)) :
    load look layers = load look layers' := by
  rw [load, load, tree, tree, ← overrides_filter, hoverrides, overrides_filter,
    ← foldlM_filter layers, hfiles, foldlM_filter]

/-- **Layers resolve by rank, not by the order in which they are given.**  Files that are there,
optional files that are not, and overrides, in any order, make settings in which every field has the
value of its last override, or else that of the last file that sets it, or else the built-in one.  A
text of these settings switches its option off exactly if it is empty.  And settings are the same
whenever the files have the same order among themselves and the overrides have the same order among
themselves. -/
theorem load_resolves_by_rank (look : Text → Lookup) :
    (∀ valid : List (ValidLayer look), ∃ s, load look (valid.map ValidLayer.layer) = .ok s ∧
      (∀ f, s.get f = resolve valid f) ∧
      (s.scanOptions.terminator = none ↔ resolve valid .terminator = ([] : Text)) ∧
      (s.scanOptions.commentStart = none ↔ resolve valid .commentStart = ([] : Text))) ∧
    ∀ layers layers' : List Layer, layers.filter Layer.isFile = layers'.filter Layer.isFile →
      layers.filter (!·.isFile) = layers'.filter (!·.isFile) →
        load look layers = load look layers' := by
  refine ⟨fun valid => ?_, fun layers layers' hfiles hoverrides => load_congr hfiles hoverrides⟩
  have hterminator : (settled valid).terminator = resolve valid .terminator :=
    get_settled valid .terminator
  have hcomment : (settled valid).commentStart = resolve valid .commentStart :=
    get_settled valid .commentStart
  have hoff : ∀ t : Text, (if t.isEmpty then none else some t) = none ↔ t = [] := by
    simp
  refine ⟨settled valid, load_eq_settled valid, get_settled valid, ?_, ?_⟩
  · rw [← hterminator]
    exact hoff _
  · rw [← hcomment]
    exact hoff _

/-- Two settings documents that set a field of theirs both. -/
def twoFiles : Files :=
  .ofList [
    ("a.toml".toList, ("[scan]\ncomment_prefix = \"#\"\nskip_blank = false\n\n" ++
      "[dispatch]\norder = [\"word\", \"property\"]\n").toList),
    ("b.toml".toList, "[scan]\ncomment_prefix = \"\"\n".toList)]

/-- The first document sets fields of both parts. -/
def firstDocument : Document :=
  ⟨[⟨.scan, [⟨.commentStart, "#".toList⟩, ⟨.skipBlank, false⟩], by simp [Field.part]⟩,
    ⟨.dispatch, [⟨.order, [.word, .property]⟩], by simp [Field.part]⟩]⟩

/-- The second document sets a field of the first one again. -/
def secondDocument : Document :=
  ⟨[⟨.scan, [⟨.commentStart, ([] : Text)⟩], by simp [Field.part]⟩]⟩

theorem standsAt_firstDocument : firstDocument.StandsAt twoFiles.look "a".toList := by
  have hread : Toml.read? ("[scan]\ncomment_prefix = \"#\"\nskip_blank = false\n\n" ++
      "[dispatch]\norder = [\"word\", \"property\"]\n").toList =
      some [("scan".toList, .table [("comment_prefix".toList, .text "#".toList),
          ("skip_blank".toList, .boolean false)]),
        ("dispatch".toList, .table [("order".toList,
          .array [.text "word".toList, .text "property".toList])])] := by
    cbv
  exact ⟨"a.toml".toList, _, by decide +kernel, hread⟩

theorem standsAt_secondDocument : secondDocument.StandsAt twoFiles.look "b".toList := by
  have hread : Toml.read? "[scan]\ncomment_prefix = \"\"\n".toList =
      some [("scan".toList, .table [("comment_prefix".toList, .text [])])] := by
    cbv
  exact ⟨"b.toml".toList, _, by decide +kernel, hread⟩

/-- Overrides between and before files win over them, the second file wins over the first one in the
field that both set, and the same layers sorted by rank make the same settings. -/
theorem load_resolves_by_rank_interleaved :
    (firstDocument.StandsAt twoFiles.look "a".toList ∧
      secondDocument.StandsAt twoFiles.look "b".toList ∧
      findFile? twoFiles.look "c".toList = none) ∧
    load twoFiles.look [.override "scan.terminator".toList (.ofText []), .file "a".toList,
        .override "scan.skip_blank".toList (.ofBool true), .optionalFile "c".toList,
        .optionalFile "b".toList, .override "scan.terminator".toList (.ofText ".".toList)] =
      .ok ⟨[.word, .property], ".".toList, [], true, true⟩ ∧
    load twoFiles.look [.file "a".toList, .optionalFile "c".toList, .optionalFile "b".toList,
        .override "scan.terminator".toList (.ofText []),
        .override "scan.skip_blank".toList (.ofBool true),
        .override "scan.terminator".toList (.ofText ".".toList)] =
      .ok ⟨[.word, .property], ".".toList, [], true, true⟩ := by
  have hmissing : findFile? twoFiles.look "c".toList = none := by decide +kernel
  have hlaid := (load_resolves_by_rank twoFiles.look).1 [
    .override ⟨.terminator, ([] : Text)⟩, .file "a".toList firstDocument standsAt_firstDocument,
    .override ⟨.skipBlank, true⟩, .missing "c".toList hmissing,
    .optionalFile "b".toList secondDocument standsAt_secondDocument,
    .override ⟨.terminator, ".".toList⟩]
  obtain ⟨⟨order, terminator, commentStart, skipBlank, allowNestedBlocks⟩, hload, hget, -⟩ := hlaid
  obtain rfl : order = [.word, .property] := hget .order
  obtain rfl : terminator = ".".toList := hget .terminator
  obtain rfl : commentStart = [] := hget .commentStart
  obtain rfl : skipBlank = true := hget .skipBlank
  obtain rfl : allowNestedBlocks = true := hget .allowNestedBlocks
  refine ⟨⟨standsAt_firstDocument, standsAt_secondDocument, hmissing⟩, hload, ?_⟩
  refine ((load_resolves_by_rank twoFiles.look).2 _ _ ?_ ?_).trans hload
  · rfl
  · rfl

end Settings

end MacroBody
