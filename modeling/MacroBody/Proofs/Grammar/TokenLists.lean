import MacroBody.Proofs.Grammar.PlainForm

/-!
# Lists of tokens in three places

The values of a property, the tags of an address range and its bus interfaces are lists of tokens.
Nothing but blanks may stand after the values and after the bus interfaces, so that the rest of the
line is the list.  The tags are different: bus interfaces may follow them, and the words before the
bus interfaces are tokens as well.

The key local fact is that a written list ends before a gap and a word (`busWord_follows`), since a
comma stands between two tokens.  A list whose tokens are `for` and `with` is therefore read in the
same way in each of the three places (`token_lists_read_alike`).
-/

namespace MacroBody

open Text

namespace AddressRange

/-! ## Tags and bus interfaces -/

/-- An address range line up to its tags. -/
structure Opening where
  before : Blanks
  announcement : Option Announcement
  first : Token
  u : Blanks
  v : Blanks
  last : Token
  introduction : Introduction
  min : UInt64
  max : UInt64
  hmin : Numeral.read? first.text = some min
  hmax : Numeral.read? last.text = some max
  ordered : min ≤ max

def Opening.text (o : Opening) : Text :=
  o.before.text ++ (o.announcement.elim [] Announcement.text ++ (o.first.text ++ (o.u.text ++
    '.' :: '.' :: (o.v.text ++ (o.last.text ++ o.introduction.text)))))

/-- The list is read up to its last tag, and the rest of the line decides. -/
theorem read_opening (o : Opening) (tags : TokenList) {rest : Text} (hblank : rest.atBlank = true)
    (hword : Stops (!isWord ·) rest.trimStart) (hline : '\n' ∉ o.text ++ (tags.text ++ rest)) :
    read (o.text ++ (tags.text ++ rest)) =
      .ofExcept (withBusInterfaces ⟨o.min, o.max, tags.tokens, [], false⟩ rest) := by
  have htags := tags?_introduction o.introduction tags hblank hword
  have hexpression : '\n' ∉ o.first.text ++ (o.u.text ++ '.' :: '.' ::
      (o.v.text ++ (o.last.text ++ (o.introduction.text ++ (tags.text ++ rest))))) := by
    intro hmem
    apply hline
    simpa [Opening.text] using Or.inr (Or.inr hmem)
  have hread := read_bounded o.before o.announcement o.first o.u o.v o.last o.hmin
    (o.introduction.stops _) hexpression
  rw [ofBounds_of_read? o.hmin o.hmax o.ordered, withQualifiers_of_tags? _ htags] at hread
  rw [← hread]
  simp [Opening.text]

/-- **A written list is read as tags.** -/
theorem read_tags (o : Opening) (l : TokenList) (hline : '\n' ∉ o.text ++ l.text) :
    read (o.text ++ l.text) = .accepted ⟨o.min, o.max, l.tokens, [], false⟩ := by
  rw [← List.append_nil l.text] at hline ⊢
  exact read_opening o l rfl stops_nil hline

/-- **A written list is read as bus interfaces** after any tags, unless one of its tokens is
repeated. -/
theorem read_busInterfaces (o : Opening) (tags : TokenList) (u : Gap) (inverse : Bool) (v : Gap)
    (l : TokenList)
    (hline : '\n' ∉ o.text ++ (tags.text ++ (u.text ++ (busWord inverse ++ (v.text ++ l.text))))) :
    read (o.text ++ (tags.text ++ (u.text ++ (busWord inverse ++ (v.text ++ l.text))))) =
      if l.tokens.Nodup then .accepted ⟨o.min, o.max, tags.tokens, l.tokens, inverse⟩
      else .rejected (.duplicateBusInterfaces l.text) := by
  obtain ⟨hblank, hword⟩ := busWord_follows u inverse (v.text ++ l.text)
  have hnames := withBusInterfaces_names ⟨o.min, o.max, tags.tokens, [], false⟩ u.toBlanks inverse v
    l ⟨[], allBlank_nil⟩
  rw [List.append_nil] at hnames
  rw [read_opening o tags hblank hword hline, hnames]
  split <;> rfl

/-- The shortest opening with the keyword and a word before the tags. -/
def Opening.zeroToOne : Opening where
  before := ⟨[], allBlank_nil⟩
  announcement := some ⟨none, .gap .space⟩
  first := ⟨['0'], by decide⟩
  u := ⟨[], allBlank_nil⟩
  v := ⟨[], allBlank_nil⟩
  last := ⟨['1'], by decide⟩
  introduction := .word .space "with".toList (Or.inl rfl) .space
  min := 0
  max := 1
  hmin := by decide
  hmax := by decide
  ordered := by decide

end AddressRange

/-! ## The three places compared -/

/-- **Lists of tokens are read alike** as values, as tags and as bus interfaces, but repetitions are
kept in the first two places only; and what is read in these places are tokens. -/
theorem token_lists_read_alike :
    (∀ l : TokenList, '\n' ∉ l.text →
      PropertyList.read ("n:".toList ++ l.text) = .accepted ⟨"n".toList, l.tokens⟩ ∧
      AddressRange.read ("range 0..1 with ".toList ++ l.text) =
        .accepted ⟨0, 1, l.tokens, [], false⟩ ∧
      AddressRange.read ("range 0..1 with t for ".toList ++ l.text) =
        if l.tokens.Nodup then .accepted ⟨0, 1, ["t".toList], l.tokens, false⟩
        else .rejected (.duplicateBusInterfaces l.text)) ∧
    (∀ line p, PropertyList.read line = .accepted p →
      p.vals ≠ [] ∧ ∀ val ∈ p.vals, val.isToken = true) ∧
    (∀ line r, AddressRange.read line = .accepted r →
      (∀ tag ∈ r.tags, tag.isToken = true) ∧ ∀ name ∈ r.busInterfaces, name.isToken = true) := by
  refine ⟨?_, ?_, ?_⟩
  · intro l hline
    have hfront : ∀ front : Text, '\n' ∉ front → '\n' ∉ front ++ l.text :=
      fun front h hmem => (List.mem_append.1 hmem).elim h hline
    refine ⟨?_, ?_, ?_⟩
    · exact PropertyList.read_tokenList ⟨['n'], by decide⟩ ⟨[], allBlank_nil⟩ ⟨[], allBlank_nil⟩ l
        hline
    · exact AddressRange.read_tags .zeroToOne l (hfront _ (by decide))
    · exact AddressRange.read_busInterfaces .zeroToOne (.last ⟨['t'], by decide⟩) .space false
        .space l (hfront "range 0..1 with t for ".toList (by decide))
  · intro line p h
    exact (PropertyList.wellFormed_of_read h).2
  · intro line r h
    have hr := AddressRange.wellFormed_of_read h
    exact ⟨hr.tags, hr.busInterfaces⟩

/-- The words of the grammar are tokens like any other. -/
example :
    AddressRange.read "range 0..1 with for , with,for".toList =
        .accepted ⟨0, 1, ["for".toList, "with".toList, "for".toList], [], false⟩ ∧
      AddressRange.read "range 0..1 with t for for , with,for".toList =
        .rejected (.duplicateBusInterfaces "for , with,for".toList) := by
  decide

end MacroBody
