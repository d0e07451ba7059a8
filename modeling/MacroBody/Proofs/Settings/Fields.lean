import MacroBody.Settings.Basic

/-!
# The fields of the settings

The settings have five fields, each with a type of values, a key and a place in one of two parts of
the tree.  `Settings.Holds` says that a tree has, at the place of every field, the value that the
settings give it.  Such a tree is read as these settings (`Settings.ofTree_of_holds`).

The key local fact is that a change of one key shows under that key and nowhere else
(`Setting.get?_change`).  So a value that is put at the place of a field changes the settings in this
field only (`Part.Holds.change`, `Settings.Holds.change`), and a tree can be followed through any
number of assignments.
-/

namespace MacroBody

namespace Setting

/-! ## Looking up in a tree -/

/-- An entry at the head is found under its key and hides what is below it. -/
theorem lookup_cons_eq (other key : Text) (value : Setting) (rest : List (Text × Setting)) :
    ((key, value) :: rest).lookup other = if other = key then some value else rest.lookup other := by
  by_cases h : other = key
  · simp [h]
  · rw [List.lookup_cons, beq_eq_false_iff_ne.2 h, if_neg h]

/-- An entry that is changed, or added at the end, is the only one that differs. -/
theorem lookup_changeEntry (key other : Text) (f : Option Setting → Setting)
    (entries : List (Text × Setting)) :
    (changeEntry key f entries).lookup other =
      if other = key then some (f (entries.lookup key)) else entries.lookup other := by
  induction entries with
  | nil => exact lookup_cons_eq other key (f none) []
  | cons entry rest ih =>
      obtain ⟨first, old⟩ := entry
      rw [changeEntry]
      split
      · rename_i hfirst
        simp only [lookup_cons_eq, hfirst]
        by_cases hother : other = key
        · simp [hother]
        · simp [hother]
      · rename_i hfirst
        simp only [lookup_cons_eq, ih, if_neg (Ne.symm hfirst)]
        by_cases hother : other = first
        · simp [hother, hfirst]
        · simp [hother]

/-- **A change shows under its own key only.** -/
theorem get?_change (key other : Text) (f : Option Setting → Setting) (s : Setting) :
    (s.change key f).get? other =
      if other = Text.toLower key then some (f (s.get? (Text.toLower key))) else s.get? other :=
  lookup_changeEntry (Text.toLower key) other f s.entries

end Setting

namespace Settings

/-- The parts of the settings. -/
inductive Part
  | dispatch
  | scan
  deriving DecidableEq, Repr

/-- The key of a part. -/
def Part.name : Part → Text
  | dispatch => "dispatch".toList
  | scan => "scan".toList

/-- The fields of the settings. -/
inductive Field
  | order
  | terminator
  | commentStart
  | skipBlank
  | allowNestedBlocks
  deriving DecidableEq, Repr

namespace Field

/-- The values of a field. -/
def Value : Field → Type
  | order => List Kind
  | terminator | commentStart => Text
  | skipBlank | allowNestedBlocks => Bool

/-- The part that a field belongs to. -/
def part : Field → Part
  | order => .dispatch
  | terminator | commentStart | skipBlank | allowNestedBlocks => .scan

/-- The key of a field in its part. -/
def name : Field → Text
  | order => "order".toList
  | terminator => "terminator".toList
  | commentStart => "comment_prefix".toList
  | skipBlank => "skip_blank".toList
  | allowNestedBlocks => "allow_nested_blocks".toList

/-- The full key of a field. -/
def key (f : Field) : Text :=
  f.part.name ++ '.' :: f.name

/-- A value as it is written in a settings document. -/
def document : (f : Field) → f.Value → Toml.Value
  | order, kinds => .array (kinds.map fun k => .text k.name)
  | terminator, t | commentStart, t => .text t
  | skipBlank, b | allowNestedBlocks, b => .boolean b

/-- A value as a setting that comes from a file, or from none. -/
def setting (f : Field) (origin : Option Text) (value : f.Value) : Setting :=
  .ofValue origin (f.document value)

end Field

/-- A value for a field. -/
structure Assignment where
  field : Field
  value : field.Value

/-- The value that an assignment has for a field. -/
def Assignment.value? (a : Assignment) (f : Field) : Option f.Value :=
  if h : a.field = f then some (h ▸ a.value) else none

/-- The value of a field. -/
def get (s : Settings) : (f : Field) → f.Value
  | .order => s.order
  | .terminator => s.terminator
  | .commentStart => s.commentStart
  | .skipBlank => s.skipBlank
  | .allowNestedBlocks => s.allowNestedBlocks

/-- The settings after an assignment. -/
def assign (s : Settings) : Assignment → Settings
  | ⟨.order, kinds⟩ => { s with order := kinds }
  | ⟨.terminator, t⟩ => { s with terminator := t }
  | ⟨.commentStart, t⟩ => { s with commentStart := t }
  | ⟨.skipBlank, b⟩ => { s with skipBlank := b }
  | ⟨.allowNestedBlocks, b⟩ => { s with allowNestedBlocks := b }

/-- The settings without any layer. -/
def builtIn : Settings where
  order := Kind.defaultOrder
  terminator := ";".toList
  commentStart := "//".toList
  skipBlank := true
  allowNestedBlocks := true

/-- What stands at the key of a part has the values of its fields. -/
def Part.Holds (part : Part) (s : Settings) (inner : Setting) : Prop :=
  ∀ f : Field, f.part = part → ∃ origin, inner.get? f.name = some (f.setting origin (s.get f))

/-- The tree has the value of every field at its place. -/
def Holds (s : Settings) (tree : Setting) : Prop :=
  ∀ part : Part, ∃ inner, tree.get? part.name = some inner ∧ part.Holds s inner

/-! ## Names and values -/

namespace Part

@[simp]
theorem toLower_name (part : Part) : Text.toLower part.name = part.name := by
  cases part <;> decide

theorem name_inj {part part' : Part} (h : part.name = part'.name) : part = part' := by
  revert h
  cases part <;> cases part' <;> decide

/-- The key of a part is a path of one step. -/
@[simp]
theorem read?_name (part : Part) : PathStep.read? part.name = some [.key part.name] := by
  cases part <;> decide

end Part

namespace Field

@[simp]
theorem toLower_name (f : Field) : Text.toLower f.name = f.name := by
  cases f <;> decide

theorem name_inj {f g : Field} (h : f.name = g.name) : f = g := by
  revert h
  cases f <;> cases g <;> decide

/-- A full key is a path of two steps. -/
@[simp]
theorem read?_key (f : Field) : PathStep.read? f.key = some [.key f.part.name, .key f.name] := by
  cases f <;> decide

/-- A value is no table, so it replaces what was there. -/
@[simp]
theorem overlay_setting (f : Field) (origin : Option Text) (value : f.Value) (old : Setting) :
    Setting.overlay (f.setting origin value) old = f.setting origin value := by
  cases f <;> rfl

end Field

/-! ## Assignments -/

theorem Assignment.value?_self (a : Assignment) : a.value? a.field = some a.value := by
  simp [value?]

theorem Assignment.value?_of_ne {a : Assignment} {f : Field} (h : a.field ≠ f) :
    a.value? f = none :=
  dif_neg h

/-- **An assignment changes its own field only.** -/
theorem get_assign (s : Settings) (a : Assignment) (f : Field) :
    (s.assign a).get f = (a.value? f).getD (s.get f) := by
  obtain ⟨field, value⟩ := a
  by_cases h : field = f
  · subst h
    rw [Assignment.value?_self ⟨field, value⟩]
    cases field <;> rfl
  · rw [Assignment.value?_of_ne h]
    cases field <;> cases f <;> first | rfl | exact absurd rfl h

/-! ## Trees that hold settings -/

variable {s s' : Settings} {part : Part} {inner tree : Setting}

/-- A value that is put under the key of its field is held. -/
theorem Part.Holds.change (h : part.Holds s inner) (origin : Option Text) (a : Assignment) :
    part.Holds (s.assign a)
      (inner.change a.field.name fun _ => a.field.setting origin a.value) := by
  intro f hf
  rw [Setting.get?_change, a.field.toLower_name, get_assign]
  by_cases hfield : a.field = f
  · subst hfield
    rw [if_pos rfl, a.value?_self]
    exact ⟨origin, rfl⟩
  · rw [if_neg fun hname => hfield (Field.name_inj hname).symm, Assignment.value?_of_ne hfield]
    exact h f hf

/-- A part that is changed by itself leaves the rest of the tree as it was. -/
theorem Holds.change (h : Holds s tree) (part : Part) {f : Option Setting → Setting}
    (hchanged : ∀ inner, part.Holds s inner → part.Holds s' (f (some inner)))
    (hother : ∀ field : Field, field.part ≠ part → s'.get field = s.get field) :
    Holds s' (tree.change part.name f) := by
  intro part'
  -- Keys are put in lower case before they are compared, which these keys are already.
  rw [Setting.get?_change, part.toLower_name]
  by_cases hpart : part' = part
  · subst hpart
    obtain ⟨inner, hinner, hholds⟩ := h part'
    exact ⟨f (some inner), by rw [if_pos rfl, hinner], hchanged inner hholds⟩
  · obtain ⟨inner, hinner, hholds⟩ := h part'
    refine ⟨inner, by rw [if_neg fun hname => hpart (Part.name_inj hname), hinner], ?_⟩
    intro field hfield
    rw [hother field fun hsame => hpart (hfield.symm.trans hsame)]
    exact hholds field hfield

/-- The defaults hold the built-in settings. -/
theorem holds_defaults : Holds builtIn defaults := by
  intro part
  cases part with
  | dispatch =>
      refine ⟨_, rfl, fun f hf => ⟨none, ?_⟩⟩
      cases f with
      | order => rfl
      | _ => cases hf
  | scan =>
      refine ⟨_, rfl, fun f hf => ⟨none, ?_⟩⟩
      cases f with
      | order => cases hf
      | _ => rfl

end Settings

/-! ## Reading settings off a tree -/

namespace Setting

open Settings

/-- A list of kinds is a list of their names. -/
theorem ofValues_names (origin : Option Text) (kinds : List Kind) :
    ofValues origin (kinds.map fun k => .text k.name) =
      kinds.map fun k => .leaf (.text k.name) origin := by
  induction kinds with
  | nil => rfl
  | cons k kinds ih => simp [ofValues, ofValue, ih]

/-- Every kind is known by its name. -/
theorem kindNamed_name (k : Kind) : kindNamed k.name = .ok k := by
  have hlower : Text.toLower k.name = k.name := by
    cases k <;> decide
  rw [kindNamed, hlower, Kind.ofName?_name]

/-- An order of kinds is read back. -/
theorem toKinds_setting (origin : Option Text) (kinds : List Kind) :
    toKinds (Field.order.setting origin kinds) = .ok kinds := by
  change (ofValues origin (kinds.map fun k => .text k.name)).mapM toKind = .ok kinds
  rw [ofValues_names]
  induction kinds with
  | nil => rfl
  | cons k kinds ih =>
      rw [List.map_cons, List.mapM_cons, ih]
      simp [toKind, kindNamed_name, bind, Except.bind, pure, Except.pure]

/-- A field of a table is found by its name. -/
theorem field_of_get? {s value : Setting} {sectionName structName name : Text} {fields : List Text}
    {index : Nat} (h : s.get? name = some value) (hname : fields[index]? = some name) :
    s.field sectionName structName fields index = .ok (sectionName ++ ['.'] ++ name, value) := by
  have hhead : (fields.drop index).head?.getD [] = name := by
    rw [List.head?_drop, hname]
    rfl
  cases s with
  | table entries =>
      have hlookup : entries.lookup name = some value := h
      simp only [field, hhead, hlookup]
  | leaf scalar origin => cases h
  | list items origin => cases h

end Setting

/-- **A tree is read as the settings that it holds.** -/
theorem Settings.ofTree_of_holds {s : Settings} {tree : Setting} (h : Holds s tree) :
    ofTree tree = .ok s := by
  obtain ⟨dispatch, hdispatch, hfields⟩ := h .dispatch
  obtain ⟨scan, hscan, hfields'⟩ := h .scan
  obtain ⟨origin₀, horder⟩ := hfields .order rfl
  obtain ⟨origin₁, hterminator⟩ := hfields' .terminator rfl
  obtain ⟨origin₂, hcomment⟩ := hfields' .commentStart rfl
  obtain ⟨origin₃, hblank⟩ := hfields' .skipBlank rfl
  obtain ⟨origin₄, hnested⟩ := hfields' .allowNestedBlocks rfl
  have hread₀ : dispatch.field "dispatch".toList "DispatchConfig".toList ["order".toList] 0 =
      .ok (_, _) := Setting.field_of_get? horder rfl
  have hread₁ : scan.field "scan".toList "ScanConfig".toList scanFields 0 = .ok (_, _) :=
    Setting.field_of_get? hterminator rfl
  have hread₂ : scan.field "scan".toList "ScanConfig".toList scanFields 1 = .ok (_, _) :=
    Setting.field_of_get? hcomment rfl
  have hread₃ : scan.field "scan".toList "ScanConfig".toList scanFields 2 = .ok (_, _) :=
    Setting.field_of_get? hblank rfl
  have hread₄ : scan.field "scan".toList "ScanConfig".toList scanFields 3 = .ok (_, _) :=
    Setting.field_of_get? hnested rfl
  have hdispatch' : tree.get? "dispatch".toList = some dispatch := hdispatch
  have hscan' : tree.get? "scan".toList = some scan := hscan
  have hkinds : Setting.toKinds (Field.order.setting origin₀ (s.get .order)) = .ok s.order :=
    Setting.toKinds_setting origin₀ s.order
  simp only [ofTree, hdispatch', hscan', Option.getD_some, hread₀, hread₁, hread₂, hread₃, hread₄,
    bind, Except.bind, hkinds]
  rfl

end MacroBody
