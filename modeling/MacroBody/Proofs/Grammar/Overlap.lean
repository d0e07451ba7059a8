import Mathlib.Data.List.Perm.Basic
import MacroBody.Proofs.Grammar.Marker
import MacroBody.Proofs.Record.Dispatch

/-!
# Which kinds compete for a line

Two kinds compete when both are decisive on some line.  Of the eight kinds of the default order
nine pairs do (`Kind.overlaps`).  Three facts on the markers exclude all other pairs, on every text:

1.  the first character that is not blank is an angle bracket, a quote or a word character, and the
    kind tells which (`Kind.lead`);
2.  a word line holds nothing but word characters and blanks, while a limitation, a method call and
    a property each hold some mark;
3.  the argument list of a call opens before any colon, while a property has its name before the
    first colon.

From the table follows the reordering law: as the first decisive kind is all that dispatch depends
on, an order that keeps the nine pairs leaves the same record on every line.
-/

namespace MacroBody

open Text

/-- The pairs of kinds that compete for some line, each in its default order. -/
def Kind.overlaps : List (Kind × Kind) :=
  [(.addressRange, .limitation), (.addressRange, .methodCall), (.addressRange, .propertyList),
    (.addressRange, .property), (.addressRange, .word), (.limitation, .methodCall),
    (.limitation, .propertyList), (.limitation, .property), (.propertyList, .property)]

/-- The classes of characters that a claimed line can start with. -/
inductive Lead
  | angle
  | quote
  | wordChar
  deriving DecidableEq

/-- Whether the character belongs to the class. -/
def Lead.admits : Lead → Char → Bool
  | angle, c => c = '<'
  | quote, c => c = '"'
  | wordChar, c => isWord c

/-- What a line of the kind starts with. -/
def Kind.lead : Kind → Lead
  | .blockTag => .angle
  | .patternLiteral => .quote
  | _ => .wordChar

/-- Whether every line of the kind holds a mark. -/
def Kind.holdsMark : Kind → Bool
  | .limitation | .methodCall | .propertyList | .property => true
  | _ => false

/-! ## The first character -/

/-- The classes do not meet. -/
theorem Lead.eq_of_admits {l l' : Lead} {c : Char} (h : l.admits c = true)
    (h' : l'.admits c = true) : l = l' := by
  have hangle : isWord '<' = false := by decide
  have hquote : isWord '"' = false := by decide
  cases l <;> cases l' <;> simp only [Lead.admits, decide_eq_true_eq] at h h' <;> simp_all

/-- The head of a property list is the head of a property. -/
theorem Kind.property_of_propertyList {line : Text} (h : Kind.Marked .propertyList line) :
    Kind.Marked .property line :=
  Property.headed_isPhrase_iff.1
    ((Property.headed_isToken_iff.2 h).mono fun _ => Property.isPhrase_of_isToken)

/-- The name of a property starts the line, and its first character is a word character. -/
theorem Property.exists_head_word {line : Text} (h : Kind.Marked .property line) :
    ∃ c, line.trimStart.head? = some c ∧ isWord c = true := by
  obtain ⟨before, after, rfl, -, c, rest, htrim, hc, -⟩ := h
  obtain ⟨u, v, hu, -, hbefore⟩ := exists_trim before
  have hstart : trimStart (before ++ ':' :: after) = c :: rest ++ (v ++ ':' :: after) := by
    rw [hbefore, htrim, List.append_assoc, List.append_assoc]
    exact trimStart_append hu (stops_cons.2 (isBlank_of_isWord hc))
  exact ⟨c, by rw [hstart]; rfl, hc⟩

/-- **The first character tells the class of the kind.** -/
theorem Kind.exists_lead {kind : Kind} {line : Text} (h : kind.Marked line) :
    ∃ c, line.trimStart.head? = some c ∧ kind.lead.admits c = true := by
  cases kind with
  | unknown => cases h
  | word =>
      obtain ⟨c, rest, htrim, hc, -⟩ := h
      exact ⟨c, by rw [← head?_trim, htrim]; rfl, isWord_of_isAlpha hc⟩
  | property => exact Property.exists_head_word h
  | propertyAnyValue => exact Property.exists_head_word (Kind.property_of_propertyList h)
  | propertyList => exact Property.exists_head_word (Kind.property_of_propertyList h)
  | blockTag => exact ⟨'<', by rw [← head?_trim]; exact h.2.1, rfl⟩
  | limitation =>
      obtain ⟨blanks, k, c, more, hblanks, rfl, -, -⟩ := h
      rw [List.append_assoc, trimStart_append hblanks (k.stops_name _)]
      cases k
      · exact ⟨'a', rfl, by decide⟩
      · exact ⟨'s', rfl, by decide⟩
      · exact ⟨'r', rfl, by decide⟩
  | addressRange =>
      rcases h with ⟨blanks, w, rest, hblanks, hw, rfl, -⟩ |
        ⟨u, first, v, w, c, rest, hu, -, -, hne, hword, -, rfl⟩
      · rw [List.append_assoc, trimStart_append hblanks (hw.stops rest)]
        rcases hw with rfl | ⟨joints, -, rfl⟩
        · exact ⟨'r', rfl, by decide⟩
        · exact ⟨'a', rfl, by decide⟩
      · have hfirst : first.isToken = true := isToken_iff.2 ⟨hne, hword⟩
        rw [List.append_assoc, List.append_assoc,
          trimStart_append hu (stops_isBlank_token hfirst _)]
        obtain ⟨d, more, rfl⟩ := List.exists_cons_of_ne_nil hne
        exact ⟨d, rfl, hword d List.mem_cons_self⟩
  | patternLiteral => exact ⟨'"', by rw [← head?_trim]; exact h.2.1, rfl⟩
  | methodCall =>
      obtain ⟨c, rest, gap, args, htrim, hc, -, -⟩ := h
      exact ⟨c, by rw [← head?_trim, htrim]; rfl, isWord_of_isAlpha hc⟩

/-! ## Marks inside the line -/

/-- A word line holds word characters and blanks only. -/
theorem Kind.plain_of_word {line : Text} (h : Kind.Marked .word line) : Plain line := by
  have hname : line.trim.isName = true := isName_iff.2 h
  exact plain_of_trim (plain_of_isWord (isToken_iff.1 (isToken_of_isName hname)).2)

/-- The first mark of a call opens its argument list. -/
theorem Kind.first_mark_of_methodCall {line : Text} (h : Kind.Marked .methodCall line) :
    ∃ front rest, line = front ++ '(' :: rest ∧ Plain front := by
  obtain ⟨c, rest, gap, args, htrim, hc, hrest, hgap⟩ := h
  obtain ⟨u, v, hu, hv, hline⟩ := exists_trim line
  refine ⟨u ++ c :: rest ++ gap, args ++ [')'] ++ v, ?_, ?_⟩
  · rw [hline, htrim]
    simp
  · have hname : ∀ x ∈ c :: rest, isWord x = true :=
      List.forall_mem_cons.2 ⟨isWord_of_isAlpha hc, hrest⟩
    exact plain_append.2 ⟨plain_append.2 ⟨hu.plain, plain_of_isWord hname⟩, hgap.plain⟩

/-- The first mark of a property is the colon after its name. -/
theorem Kind.first_mark_of_property {line : Text} (h : Kind.Marked .property line) :
    ∃ before rest, line = before ++ ':' :: rest ∧ Plain before := by
  obtain ⟨before, rest, hline, -, hname⟩ := Property.headed_isPhrase_iff.2 h
  exact ⟨before, rest, hline, plain_of_trim (Property.plain_of_isPhrase hname)⟩

/-- A limitation, a call and a property each hold a mark. -/
theorem Kind.exists_isMark {kind : Kind} {line : Text} (hkind : kind.holdsMark = true)
    (h : kind.Marked line) : ∃ x ∈ line, isMark x = true := by
  have hproperty : Kind.Marked .property line → ∃ x ∈ line, isMark x = true := by
    intro hmarked
    obtain ⟨before, rest, rfl, -⟩ := Kind.first_mark_of_property hmarked
    exact ⟨':', by simp, rfl⟩
  cases kind with
  | limitation =>
      obtain ⟨blanks, k, c, more, -, rfl, -, hsep | hsep⟩ := h
      · exact ⟨':', by simp [hsep], rfl⟩
      · exact ⟨'=', by simp [hsep], rfl⟩
  | methodCall =>
      obtain ⟨front, rest, rfl, -⟩ := Kind.first_mark_of_methodCall h
      exact ⟨'(', by simp, rfl⟩
  | propertyList => exact hproperty (Kind.property_of_propertyList h)
  | property => exact hproperty h
  | _ => cases hkind

/-- **A call is no property.**  Its parenthesis would stand in the name of the property, or the
colon of the property before its parenthesis. -/
theorem Kind.not_property_of_methodCall {line : Text} (h : Kind.Marked .methodCall line) :
    ¬ Kind.Marked .property line := by
  intro hproperty
  obtain ⟨front, rest, hline, hfront⟩ := Kind.first_mark_of_methodCall h
  obtain ⟨before, rest', hline', hbefore⟩ := Kind.first_mark_of_property hproperty
  have hmark := (first_mark_unique hfront hbefore rfl rfl (hline.symm.trans hline')).2.1
  cases hmark

/-! ## The table -/

/-- Whether the two kinds are listed as competing, in either order. -/
def Kind.Overlapping (a b : Kind) : Prop :=
  (a, b) ∈ Kind.overlaps ∨ (b, a) ∈ Kind.overlaps

instance (a b : Kind) : Decidable (Kind.Overlapping a b) :=
  inferInstanceAs (Decidable (_ ∨ _))

/-- Two kinds of the default order that claim one text are listed as competing. -/
theorem Kind.overlapping_of_marked {a b : Kind} (ha : a ∈ Kind.defaultOrder)
    (hb : b ∈ Kind.defaultOrder) (hne : a ≠ b) {line : Text} (hma : a.Marked line)
    (hmb : b.Marked line) : Kind.Overlapping a b := by
  have hlead : a.lead = b.lead := by
    obtain ⟨c, hhead, hadmits⟩ := Kind.exists_lead hma
    obtain ⟨c', hhead', hadmits'⟩ := Kind.exists_lead hmb
    obtain rfl : c = c' := Option.some.inj (hhead.symm.trans hhead')
    exact Lead.eq_of_admits hadmits hadmits'
  have hword : ∀ {k k' : Kind}, k.Marked line → k'.Marked line → k = .word →
      k'.holdsMark = false := by
    intro k k' hk hk' heq
    subst heq
    by_contra hmark
    obtain ⟨x, hx, hxmark⟩ := Kind.exists_isMark (by simpa using hmark) hk'
    rw [Kind.plain_of_word hk x hx] at hxmark
    cases hxmark
  have hcall : ∀ {k k' : Kind}, k.Marked line → k'.Marked line → k = .methodCall →
      k' ≠ .property ∧ k' ≠ .propertyList := by
    intro k k' hk hk' heq
    subst heq
    refine ⟨?_, ?_⟩
    · intro heq
      subst heq
      exact Kind.not_property_of_methodCall hk hk'
    · intro heq
      subst heq
      exact Kind.not_property_of_methodCall hk (Kind.property_of_propertyList hk')
  -- What remains is a finite table: these facts, for the pair and for its mirror image, leave the
  -- listed pairs only.
  have htable : ∀ a ∈ Kind.defaultOrder, ∀ b ∈ Kind.defaultOrder, a ≠ b → a.lead = b.lead →
      (a = .word → b.holdsMark = false) → (b = .word → a.holdsMark = false) →
      (a = .methodCall → b ≠ .property ∧ b ≠ .propertyList) →
      (b = .methodCall → a ≠ .property ∧ a ≠ .propertyList) → Kind.Overlapping a b := by
    decide
  exact htable a ha b hb hne hlead (hword hma hmb) (hword hmb hma) (hcall hma hmb) (hcall hmb hma)

/-- Two kinds that are both decisive are listed, the one that is tried first in front. -/
theorem Kind.mem_overlaps_of_sublist [PatternCompiler] {a b : Kind}
    (hsub : [a, b].Sublist Kind.defaultOrder) {line : Text} (ha : (a.read line).isDecisive = true)
    (hb : (b.read line).isDecisive = true) :
    (a, b) ∈ Kind.overlaps := by
  have hlisted : ∀ a ∈ Kind.defaultOrder, ∀ b ∈ Kind.defaultOrder,
      [a, b].Sublist Kind.defaultOrder →
        a ≠ b ∧ (Kind.Overlapping a b → (a, b) ∈ Kind.overlaps) := by
    decide
  have hamem : a ∈ Kind.defaultOrder := hsub.subset (by simp)
  have hbmem : b ∈ Kind.defaultOrder := hsub.subset (by simp)
  obtain ⟨hne, horder⟩ := hlisted a hamem b hbmem hsub
  exact horder (Kind.overlapping_of_marked hamem hbmem hne (Kind.marked_of_isDecisive ha)
    (Kind.marked_of_isDecisive hb))

/-- Every listed pair competes for some line. -/
theorem Kind.exists_line_of_overlaps [PatternCompiler] {a b : Kind} (h : (a, b) ∈ Kind.overlaps) :
    ∃ line, (a.read line).isDecisive = true ∧ (b.read line).isDecisive = true := by
  simp only [Kind.overlaps, List.mem_cons, Prod.mk.injEq, List.not_mem_nil, or_false] at h
  rcases h with ⟨rfl, rfl⟩ | ⟨rfl, rfl⟩ | ⟨rfl, rfl⟩ | ⟨rfl, rfl⟩ | ⟨rfl, rfl⟩ | ⟨rfl, rfl⟩ |
    ⟨rfl, rfl⟩ | ⟨rfl, rfl⟩ | ⟨rfl, rfl⟩
  · exact ⟨"add range: x".toList, rfl, rfl⟩
  · exact ⟨"range (x)".toList, rfl, rfl⟩
  · exact ⟨"range: x".toList, rfl, rfl⟩
  · exact ⟨"range: x".toList, rfl, rfl⟩
  · exact ⟨"range".toList, rfl, rfl⟩
  · exact ⟨"set (a=b)".toList, rfl, rfl⟩
  · exact ⟨"add : x".toList, rfl, rfl⟩
  · exact ⟨"add : x".toList, rfl, rfl⟩
  · exact ⟨"a: x".toList, rfl, rfl⟩

/-! ## Reordering -/

/-- In a list without repetitions the first hit has no hit before it. -/
theorem not_pair_sublist_of_find? {α : Type} {p : α → Bool} {l : List α} {a b : α}
    (hnodup : l.Nodup) (hfind : l.find? p = some b) (ha : p a = true) (hne : a ≠ b) :
    ¬ [a, b].Sublist l := by
  obtain ⟨-, before, after, rfl, hbefore⟩ := List.find?_eq_some_iff_append.1 hfind
  have hanot : a ∉ before := by
    intro hmem
    simpa [ha] using hbefore a hmem
  have hbnot : b ∉ after := by
    have h := (List.nodup_append.1 hnodup).2.1
    exact (List.nodup_cons.1 h).1
  intro hsub
  obtain ⟨front, back, heq, hfront, hback⟩ := List.sublist_append_iff.1 hsub
  cases front with
  | cons x more =>
      obtain rfl : a = x := by simpa using (List.cons.inj heq).1
      exact hanot (hfront.subset List.mem_cons_self)
  | nil =>
      rw [List.nil_append] at heq
      subst heq
      rcases List.sublist_cons_iff.1 hback with hsub' | ⟨r, heq, hr⟩
      · exact hbnot (hsub'.subset (by simp))
      · exact hne (List.cons.inj heq).1

/-- A search finds the same element in two orders that agree on the pairs of hits. -/
theorem find?_eq_of_pairs {α : Type} {p : α → Bool} {l l' : List α} (hperm : l.Perm l')
    (hnodup : l.Nodup)
    (hpairs : ∀ a b, p a = true → p b = true → [a, b].Sublist l' → [a, b].Sublist l) :
    l.find? p = l'.find? p := by
  cases hfind : l'.find? p with
  | none =>
      rw [List.find?_eq_none] at hfind ⊢
      intro x hx
      exact hfind x (hperm.mem_iff.1 hx)
  | some a =>
      obtain ⟨hpa, before, after, heq, hbefore⟩ := List.find?_eq_some_iff_append.1 hfind
      have hmem : a ∈ l := hperm.mem_iff.2 (by rw [heq]; simp)
      obtain ⟨b, hb⟩ : ∃ b, l.find? p = some b := by
        rw [← Option.isSome_iff_exists, List.find?_isSome]
        exact ⟨a, hmem, hpa⟩
      by_cases hab : a = b
      · rw [hb, hab]
      · have hpb := List.find?_some hb
        have hbmem : b ∈ l' := hperm.mem_iff.1 (List.mem_of_find?_eq_some hb)
        have hafter : b ∈ after := by
          rw [heq] at hbmem
          rcases List.mem_append.1 hbmem with hbmem | hbmem
          · simpa [hpb] using hbefore b hbmem
          · rcases List.mem_cons.1 hbmem with rfl | hbmem
            · exact absurd rfl hab
            · exact hbmem
        have hsub : [a, b].Sublist l' := by
          rw [heq]
          exact List.Sublist.trans ((List.singleton_sublist.2 hafter).cons_cons a)
            (List.sublist_append_right before (a :: after))
        exact absurd (hpairs a b hpa hpb hsub) (not_pair_sublist_of_find? hnodup hb hpa hab)

/-- An order that keeps the competing pairs gives and leaves what the default order does. -/
theorem Record.tryParse_eq_of_overlaps [PatternCompiler] {order : List Kind}
    (hperm : order.Perm Kind.defaultOrder)
    (hkeep : ∀ pair ∈ Kind.overlaps, [pair.1, pair.2].Sublist order) (r : Record) (line : Text) :
    r.tryParse line order = r.tryParse line Kind.defaultOrder := by
  have hnodup : order.Nodup := hperm.nodup_iff.2 (by decide)
  refine tryParse_congr r (find?_eq_of_pairs hperm hnodup ?_)
  intro a b hda hdb hsub
  exact hkeep (a, b) (Kind.mem_overlaps_of_sublist hsub hda hdb)

/-- A kind decides a line when no kind that is listed before it does. -/
theorem Record.tryParse_default_eq [PatternCompiler] {k : Kind} (hk : k ∈ Kind.defaultOrder)
    {line : Text} (hdecisive : (k.read line).isDecisive = true)
    (hbefore : ∀ a, (a, k) ∈ Kind.overlaps → (a.read line).isDecisive = false) (r : Record) :
    r.tryParse line Kind.defaultOrder = (new k).note (k.read line) := by
  obtain ⟨front, back, horder⟩ := List.append_of_mem hk
  have hfind : Kind.defaultOrder.find? (fun k => (k.read line).isDecisive) = some k := by
    refine List.find?_eq_some_iff_append.2 ⟨hdecisive, front, back, horder, ?_⟩
    intro a ha
    by_contra hdecides
    have hdecides : (a.read line).isDecisive = true := by simpa using hdecides
    have hsub : [a, k].Sublist Kind.defaultOrder := by
      rw [horder]
      exact List.Sublist.append (List.singleton_sublist.2 ha)
        (List.singleton_sublist.2 List.mem_cons_self)
    rw [hbefore a (Kind.mem_overlaps_of_sublist hsub hdecides hdecisive)] at hdecides
    cases hdecides
  rw [tryParse_eq, hfind]
  rfl

/-- Such a kind fills the record with the payload that it reads. -/
theorem Record.tryParse_of_accepted [PatternCompiler] {k : Kind} (hk : k ∈ Kind.defaultOrder)
    {line : Text} {p : Payload} (hread : k.read line = .accepted p)
    (hbefore : ∀ a, (a, k) ∈ Kind.overlaps → (a.read line).isDecisive = false) (r : Record) :
    r.tryParse line Kind.defaultOrder = (.ok, ⟨k, .ok, none, some p⟩) := by
  rw [tryParse_default_eq hk (by rw [hread]; rfl) hbefore, hread]
  rfl

/-- Such a kind fills the record with the cause for which it rejects. -/
theorem Record.tryParse_of_rejected [PatternCompiler] {k : Kind} (hk : k ∈ Kind.defaultOrder)
    {line : Text} {cause : GrammarError} (hread : k.read line = .rejected cause)
    (hbefore : ∀ a, (a, k) ∈ Kind.overlaps → (a.read line).isDecisive = false) (r : Record) :
    r.tryParse line Kind.defaultOrder = (.error, ⟨k, .error, some cause, none⟩) := by
  rw [tryParse_default_eq hk (by rw [hread]; rfl) hbefore, hread]
  rfl

/-- **The competing kinds and what their order decides.**  Of the kinds of the default order exactly
the listed pairs are both decisive on some text.  An order of the same kinds that keeps the listed
pairs gives the same outcome and leaves the same record on every text, and so does one that moves
block tags and pattern literals only. -/
theorem Kind.overlaps_decide_dispatch [PatternCompiler] :
    (∀ a ∈ Kind.defaultOrder, ∀ b ∈ Kind.defaultOrder, a ≠ b →
      ((∃ line, (a.read line).isDecisive = true ∧ (b.read line).isDecisive = true) ↔
        (a, b) ∈ Kind.overlaps ∨ (b, a) ∈ Kind.overlaps)) ∧
    (∀ order : List Kind, order.Perm Kind.defaultOrder →
      (∀ pair ∈ Kind.overlaps, [pair.1, pair.2].Sublist order) →
      ∀ (r : Record) (line : Text),
        r.tryParse line order = r.tryParse line Kind.defaultOrder) ∧
    (∀ order : List Kind, order.Perm Kind.defaultOrder →
      order.filter (fun k => k ≠ .blockTag ∧ k ≠ .patternLiteral) =
        Kind.defaultOrder.filter (fun k => k ≠ .blockTag ∧ k ≠ .patternLiteral) →
      ∀ (r : Record) (line : Text),
        r.tryParse line order = r.tryParse line Kind.defaultOrder) := by
  refine ⟨?_, ?_, ?_⟩
  · intro a ha b hb hne
    constructor
    · intro h
      obtain ⟨line, hda, hdb⟩ := h
      exact Kind.overlapping_of_marked ha hb hne (Kind.marked_of_isDecisive hda)
        (Kind.marked_of_isDecisive hdb)
    · intro h
      rcases h with h | h
      · exact Kind.exists_line_of_overlaps h
      · obtain ⟨line, hdb, hda⟩ := Kind.exists_line_of_overlaps h
        exact ⟨line, hda, hdb⟩
  · intro order hperm hkeep r line
    exact Record.tryParse_eq_of_overlaps hperm hkeep r line
  · intro order hperm hrest r line
    -- The listed pairs all stand in what is left of the default order.
    have hpairs : ∀ pair ∈ Kind.overlaps, [pair.1, pair.2].Sublist
        (Kind.defaultOrder.filter (fun k => k ≠ .blockTag ∧ k ≠ .patternLiteral)) := by
      decide
    refine Record.tryParse_eq_of_overlaps hperm ?_ r line
    intro pair hpair
    refine (hpairs pair hpair).trans ?_
    rw [← hrest]
    exact List.filter_sublist

end MacroBody
