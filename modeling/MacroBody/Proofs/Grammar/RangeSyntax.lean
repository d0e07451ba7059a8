import MacroBody.Proofs.Grammar.Numeral
import MacroBody.Proofs.Grammar.RangeStages
import MacroBody.Proofs.Text.TokenList

/-!
# The parts of an address range line

`AddressRange.Form` is an address range line taken apart: the keyword, the two bounds, the tags, the
bus interfaces and every blank between them.  Each part carries the evidence of its own shape, so
that only a line of the grammar can be put together, and a form has one text and one range.

The main result is that the parts can be recovered (`Form.eq_of_text_eq`): no line can be taken
apart in two ways.  This is not obvious of a grammar whose keywords are words that a tag may be as
well.  Each part is found by the first character that does not belong to it.

* The keyword starts with a letter that starts no numeral.
* A list of tokens ends before a gap after which no comma stands; so the words before the bus
  interfaces end the list of tags, although they could be tags themselves.
* The blanks at the end of the line hold no token.
-/

namespace MacroBody.AddressRange

open Text

/-- What may stand between `add` and `range`. -/
@[ext]
structure Joints where
  text : Text
  joint : ∀ c ∈ text, isJoint c = true

/-- What ends the range keyword: a colon with any blanks around it, or a gap. -/
inductive Separator
  | colon (u v : Blanks)
  | gap (u : Gap)

/-- The range keyword, with or without `add`, and what ends it. -/
@[ext]
structure Announcement where
  add : Option Joints
  separator : Separator

/-- What introduces the tags: a colon with any blanks around it, or one of two words that stands
apart. -/
inductive Introduction
  | colon (u v : Blanks)
  | word (u : Gap) (word : Text) (hword : TagWord word) (v : Gap)

/-- The bus interfaces and the word before them. -/
@[ext]
structure BusList where
  u : Gap
  inverse : Bool
  v : Gap
  names : TokenList
  nodup : names.tokens.Nodup

/-- What may stand after the bounds: tags, and bus interfaces after the tags. -/
@[ext]
structure Qualifiers where
  introduction : Introduction
  tags : TokenList
  buses : Option BusList

/-- An address range line taken apart.  The blanks `u` and `v` stand around the dots.  Beside a token
there are only blanks, marks and the ends of the line, so that every token is a whole run of word
characters. -/
@[ext]
structure Form where
  before : Blanks
  announcement : Option Announcement
  first : Token
  u : Blanks
  v : Blanks
  last : Token
  qualifiers : Option Qualifiers
  after : Blanks
  min : UInt64
  max : UInt64
  hmin : Numeral.read? first.text = some min
  hmax : Numeral.read? last.text = some max
  ordered : min ≤ max

/-! ## Putting a line together -/

def Separator.text : Separator → Text
  | colon u v => u.text ++ ':' :: v.text
  | gap u => u.text

/-- The keyword without what ends it. -/
def Announcement.word (a : Announcement) : Text :=
  match a.add with
  | none => "range".toList
  | some joints => "add".toList ++ joints.text ++ "range".toList

def Announcement.text (a : Announcement) : Text :=
  a.word ++ a.separator.text

def Introduction.text : Introduction → Text
  | colon u v => u.text ++ ':' :: v.text
  | word u w _ v => u.text ++ (w ++ v.text)

def BusList.text (b : BusList) : Text :=
  b.u.text ++ (busWord b.inverse ++ (b.v.text ++ b.names.text))

/-- The end of a line from the bus interfaces on. -/
def busTail (buses : Option BusList) (after : Blanks) : Text :=
  buses.elim [] BusList.text ++ after.text

/-- The end of a line from the qualifiers on. -/
def qualifierTail (qualifiers : Option Qualifiers) (after : Blanks) : Text :=
  match qualifiers with
  | none => after.text
  | some q => q.introduction.text ++ (q.tags.text ++ busTail q.buses after)

namespace Form

/-- The end of the line from the first bound on. -/
def expression (f : Form) : Text :=
  f.first.text ++ (f.u.text ++ '.' :: '.' ::
    (f.v.text ++ (f.last.text ++ qualifierTail f.qualifiers f.after)))

/-- The line that is put together. -/
def text (f : Form) : Text :=
  f.before.text ++ (f.announcement.elim [] Announcement.text ++ f.expression)

/-- The bus interfaces, where the line has any. -/
def buses (f : Form) : Option BusList :=
  f.qualifiers.bind Qualifiers.buses

/-- The range that the line describes. -/
def range (f : Form) : AddressRange where
  min := f.min
  max := f.max
  tags := f.qualifiers.elim [] fun q => q.tags.tokens
  busInterfaces := f.buses.elim [] fun b => b.names.tokens
  inverse := f.buses.elim false BusList.inverse

end Form

/-! ## Where the parts end -/

/-- The word before the bus interfaces says whether they are meant inversely. -/
theorem busWord_injective {inverse inverse' : Bool} (h : busWord inverse = busWord inverse') :
    inverse = inverse' := by
  revert h
  cases inverse <;> cases inverse' <;> decide

/-- A gap and a word end a list, also where the word could be a token of it. -/
theorem busWord_follows (u : Gap) (inverse : Bool) (rest : Text) :
    (u.text ++ (busWord inverse ++ rest)).atBlank = true ∧
      Stops (!isWord ·) (u.text ++ (busWord inverse ++ rest)).trimStart := by
  refine ⟨u.atBlank _, ?_⟩
  rw [trimStart_append u.blank (stops_isBlank_token (isToken_busWord inverse) rest)]
  cases inverse with
  | false => exact stops_cons.2 (by decide : (!isWord 'f') = false)
  | true => exact stops_cons.2 (by decide : (!isWord 'n') = false)

/-- The blanks at the end of a line are where a list of tags can end. -/
theorem blanks_follow (after : Blanks) :
    after.text.atBlank = true ∧ Stops (!isWord ·) after.text.trimStart := by
  refine ⟨after.atBlank, ?_⟩
  rw [trimStart_of_allBlank after.blank]
  exact stops_nil

/-- After the tags there are a gap and a word, or blanks up to the end of the line. -/
theorem busTail_follows (buses : Option BusList) (after : Blanks) :
    (busTail buses after).atBlank = true ∧ Stops (!isWord ·) (busTail buses after).trimStart := by
  cases buses with
  | none => exact blanks_follow after
  | some b =>
      have htail : busTail (some b) after =
          b.u.text ++ (busWord b.inverse ++ (b.v.text ++ (b.names.text ++ after.text))) := by
        simp [busTail, BusList.text]
      rw [htail]
      exact busWord_follows b.u b.inverse _

/-- A list of tags ends before the bus interfaces, or before the blanks at the end of the line. -/
theorem endsList_busTail (buses : Option BusList) (after : Blanks) :
    EndsList (busTail buses after) :=
  endsList_of_atBlank (busTail_follows buses after).1 (busTail_follows buses after).2

/-- What introduces a list of tags ends the second bound. -/
theorem Introduction.stops (i : Introduction) (rest : Text) : Stops isWord (i.text ++ rest) := by
  cases i with
  | colon u v =>
      rw [Introduction.text, List.append_assoc]
      exact stops_isWord_of_allBlank u.blank (stops_cons.2 (by decide))
  | word u w hw v =>
      rw [Introduction.text, List.append_assoc]
      exact u.stops _

/-- What follows the second bound does not prolong it. -/
theorem stops_qualifierTail (qualifiers : Option Qualifiers) (after : Blanks) :
    Stops isWord (qualifierTail qualifiers after) := by
  cases qualifiers with
  | none => exact after.stops
  | some q => exact q.introduction.stops _

/-! ## Taking a line apart -/

section Unique

variable {rest rest' : Text} {after after' : Blanks}

/-- The bus interfaces of a written line are the only ones that it can have. -/
theorem BusList.unique {b b' : BusList} (h : b.text ++ after.text = b'.text ++ after'.text) :
    b = b' ∧ after = after' := by
  have hword : ∀ inverse, ∀ c ∈ busWord inverse, isWord c = true :=
    fun inverse => (isToken_iff.1 (isToken_busWord inverse)).2
  simp only [BusList.text, List.append_assoc] at h
  obtain ⟨hu, h⟩ := Gap.unique h (stops_isBlank_token (isToken_busWord _) _)
    (stops_isBlank_token (isToken_busWord _) _)
  obtain ⟨hinverse, h⟩ := span_unique (hword _) (hword _) (b.v.stops _) (b'.v.stops _) h
  obtain ⟨hv, h⟩ := Gap.unique h (b.names.stops_text _) (b'.names.stops_text _)
  obtain ⟨hnames, h⟩ := TokenList.unique h (endsList_busTail none after)
    (endsList_busTail none after')
  exact ⟨BusList.ext hu (busWord_injective hinverse) hv hnames, Blanks.ext h⟩

/-- So is whether it has any. -/
theorem busTail_unique {buses buses' : Option BusList}
    (h : busTail buses after = busTail buses' after') : buses = buses' ∧ after = after' := by
  have hnone : ∀ {b : BusList} {u v : Blanks}, u.text ≠ busTail (some b) v := by
    intro b u v heq
    have hblank := heq ▸ u.blank
    simp only [busTail, Option.elim_some, BusList.text, allBlank_append] at hblank
    exact b.names.not_allBlank hblank.1.2.2.2
  cases buses with
  | none =>
      cases buses' with
      | none => exact ⟨rfl, Blanks.ext h⟩
      | some b' => exact absurd h hnone
  | some b =>
      cases buses' with
      | none => exact absurd h.symm hnone
      | some b' =>
          obtain ⟨rfl, rfl⟩ := BusList.unique h
          exact ⟨rfl, rfl⟩

/-- A colon is no word. -/
theorem Introduction.colon_ne_word {u v : Blanks} {u' v' : Gap} {w : Text}
    (hw : TagWord w) :
    u.text ++ ':' :: (v.text ++ rest) ≠ u'.text ++ (w ++ (v'.text ++ rest')) := by
  intro h
  obtain ⟨-, hcolon⟩ := span_unique u.blank u'.blank (stops_cons.2 (by decide))
    (stops_isBlank_token hw.isToken _) h
  rcases hw with rfl | rfl <;> cases hcolon

/-- A list of tags is introduced in one way only. -/
theorem Introduction.unique {i i' : Introduction} (h : i.text ++ rest = i'.text ++ rest')
    (hrest : Stops isBlank rest) (hrest' : Stops isBlank rest') : i = i' ∧ rest = rest' := by
  cases i with
  | colon u v =>
      cases i' with
      | colon u' v' =>
          simp only [Introduction.text, List.append_assoc, List.cons_append] at h
          obtain ⟨rfl, hcolon⟩ := Blanks.unique h (stops_cons.2 (by decide))
            (stops_cons.2 (by decide))
          obtain ⟨rfl, rfl⟩ := Blanks.unique (List.cons.inj hcolon).2 hrest hrest'
          exact ⟨rfl, rfl⟩
      | word u' w' hw' v' =>
          simp only [Introduction.text, List.append_assoc, List.cons_append] at h
          exact absurd h (Introduction.colon_ne_word hw')
  | word u w hw v =>
      cases i' with
      | colon u' v' =>
          simp only [Introduction.text, List.append_assoc, List.cons_append] at h
          exact absurd h.symm (Introduction.colon_ne_word hw)
      | word u' w' hw' v' =>
          simp only [Introduction.text, List.append_assoc] at h
          have htoken := hw.isToken
          have htoken' := hw'.isToken
          obtain ⟨rfl, hwords⟩ := Gap.unique h (stops_isBlank_token htoken _)
            (stops_isBlank_token htoken' _)
          obtain ⟨rfl, hgaps⟩ := span_unique (isToken_iff.1 htoken).2 (isToken_iff.1 htoken').2
            (v.stops _) (v'.stops _) hwords
          obtain ⟨rfl, rfl⟩ := Gap.unique hgaps hrest hrest'
          exact ⟨rfl, rfl⟩

/-- **The qualifiers of a written line are the only ones that it can have.** -/
theorem qualifierTail_unique {qualifiers qualifiers' : Option Qualifiers}
    (h : qualifierTail qualifiers after = qualifierTail qualifiers' after') :
    qualifiers = qualifiers' ∧ after = after' := by
  have hnone : ∀ {q : Qualifiers} {u v : Blanks}, u.text ≠ qualifierTail (some q) v := by
    intro q u v heq
    have hblank := heq ▸ u.blank
    simp only [qualifierTail, allBlank_append] at hblank
    exact q.tags.not_allBlank hblank.2.1
  cases qualifiers with
  | none =>
      cases qualifiers' with
      | none => exact ⟨rfl, Blanks.ext h⟩
      | some q' => exact absurd h hnone
  | some q =>
      cases qualifiers' with
      | none => exact absurd h.symm hnone
      | some q' =>
          obtain ⟨hintroduction, h⟩ := Introduction.unique h (q.tags.stops_text _)
            (q'.tags.stops_text _)
          obtain ⟨htags, h⟩ := TokenList.unique h (endsList_busTail _ _) (endsList_busTail _ _)
          obtain ⟨hbuses, rfl⟩ := busTail_unique h
          exact ⟨congrArg some (Qualifiers.ext hintroduction htags hbuses), rfl⟩

/-- A token follows the separator; the separator is found although it may be a gap only. -/
theorem Separator.unique {s s' : Separator} {t t' : Token}
    (h : s.text ++ (t.text ++ rest) = s'.text ++ (t'.text ++ rest')) :
    s = s' ∧ t.text ++ rest = t'.text ++ rest' := by
  have hgap : ∀ {u v : Blanks} {u' : Gap} {t t' : Token} {rest rest' : Text},
      u.text ++ ':' :: (v.text ++ (t.text ++ rest)) ≠ u'.text ++ (t'.text ++ rest') := by
    intro u v u' t t' rest rest' h
    obtain ⟨-, hcolon⟩ := span_unique u.blank u'.blank (stops_cons.2 (by decide)) (t'.stops _) h
    cases Token.isWord_head hcolon.symm
  cases s with
  | colon u v =>
      cases s' with
      | colon u' v' =>
          simp only [Separator.text, List.append_assoc, List.cons_append] at h
          obtain ⟨rfl, hcolon⟩ := Blanks.unique h (stops_cons.2 (by decide))
            (stops_cons.2 (by decide))
          obtain ⟨rfl, hmore⟩ := Blanks.unique (List.cons.inj hcolon).2 (t.stops _) (t'.stops _)
          exact ⟨rfl, hmore⟩
      | gap u' =>
          simp only [Separator.text, List.append_assoc, List.cons_append] at h
          exact absurd h hgap
  | gap u =>
      cases s' with
      | colon u' v' =>
          simp only [Separator.text, List.append_assoc, List.cons_append] at h
          exact absurd h.symm hgap
      | gap u' =>
          obtain ⟨rfl, hmore⟩ := Gap.unique h (t.stops _) (t'.stops _)
          exact ⟨rfl, hmore⟩

/-- An announcement is written with the range keyword. -/
theorem Announcement.rangeWord (a : Announcement) : RangeWord a.word := by
  unfold Announcement.word
  cases a.add with
  | none => exact Or.inl rfl
  | some joints => exact Or.inr ⟨joints.text, fun c hc => isJoint_iff.1 (joints.joint c hc), rfl⟩

/-- Whether the longer keyword is written, and where it ends, can be seen from the line. -/
theorem Announcement.word_unique {a a' : Announcement} (h : a.word ++ rest = a'.word ++ rest') :
    a.add = a'.add ∧ rest = rest' := by
  obtain ⟨add, s⟩ := a
  obtain ⟨add', s'⟩ := a'
  cases add with
  | none =>
      cases add' with
      | none => exact ⟨rfl, (List.append_right_inj "range".toList).1 h⟩
      | some joints' => cases h
  | some joints =>
      cases add' with
      | none => cases h
      | some joints' =>
          simp only [Announcement.word, List.append_assoc] at h
          obtain ⟨htext, hrange⟩ := span_unique joints.joint joints'.joint
            (stops_cons.2 (by decide)) (stops_cons.2 (by decide))
            ((List.append_right_inj "add".toList).1 h)
          exact ⟨congrArg some (Joints.ext htext), (List.append_right_inj "range".toList).1 hrange⟩

/-- No bound starts as the keyword does. -/
theorem RangeWord.ne_numeral {w : Text} {t : Token} {n : UInt64} (hw : RangeWord w)
    (ht : Numeral.read? t.text = some n) : t.text ++ rest ≠ w ++ rest' := by
  intro h
  obtain ⟨c, more, htoken⟩ := List.exists_cons_of_ne_nil (isToken_iff.1 t.isToken).1
  rw [htoken] at h ht
  rcases hw with rfl | ⟨joints, -, rfl⟩
  · obtain rfl : c = 'r' := (List.cons.inj h).1
    rw [Numeral.read?_of_head (by decide) (by decide) rfl rfl] at ht
    cases ht
  · obtain rfl : c = 'a' := (List.cons.inj h).1
    rw [Numeral.read?_of_head (by decide) (by decide) rfl rfl] at ht
    cases ht

end Unique

namespace Form

variable {f g : Form}

/-- Behind the same announcement, forms with the same expression are the same. -/
theorem eq_of_expression_eq (hbefore : f.before = g.before)
    (hannouncement : f.announcement = g.announcement) (h : f.expression = g.expression) : f = g := by
  unfold expression at h
  have hdots : ∀ {u : Blanks} {rest : Text}, Stops isWord (u.text ++ '.' :: rest) :=
    fun {u} _ => stops_isWord_of_allBlank u.blank (stops_cons.2 (by decide))
  obtain ⟨hfirst, h⟩ := Token.unique h hdots hdots
  obtain ⟨hu, h⟩ := Blanks.unique h (stops_cons.2 (by decide)) (stops_cons.2 (by decide))
  have hmore := (List.cons.inj (List.cons.inj h).2).2
  obtain ⟨hv, h⟩ := Blanks.unique hmore (f.last.stops _) (g.last.stops _)
  obtain ⟨hlast, h⟩ := Token.unique h (stops_qualifierTail _ _) (stops_qualifierTail _ _)
  obtain ⟨hqualifiers, hafter⟩ := qualifierTail_unique h
  have hmin : f.min = g.min := Option.some.inj (by rw [← f.hmin, ← g.hmin, hfirst])
  have hmax : f.max = g.max := Option.some.inj (by rw [← f.hmax, ← g.hmax, hlast])
  exact Form.ext hbefore hannouncement hfirst hu hv hlast hqualifiers hafter hmin hmax

/-- The line starts with the keyword or with the first bound, after its blanks. -/
theorem stops_body (f : Form) :
    Stops isBlank (f.announcement.elim [] Announcement.text ++ f.expression) := by
  cases f.announcement with
  | none => exact f.first.stops _
  | some a =>
      rw [Option.elim_some, Announcement.text, List.append_assoc]
      exact a.rangeWord.stops _

/-- **A line can be taken apart in one way only.** -/
theorem eq_of_text_eq (h : f.text = g.text) : f = g := by
  obtain ⟨hbefore, h⟩ := Blanks.unique h f.stops_body g.stops_body
  cases ha : f.announcement with
  | none =>
      cases ha' : g.announcement with
      | none =>
          rw [ha, ha'] at h
          exact eq_of_expression_eq hbefore (ha.trans ha'.symm) h
      | some a' =>
          rw [ha, ha', Option.elim_some, Announcement.text, List.append_assoc] at h
          exact absurd h (a'.rangeWord.ne_numeral f.hmin)
  | some a =>
      cases ha' : g.announcement with
      | none =>
          rw [ha, ha', Option.elim_some, Announcement.text, List.append_assoc] at h
          exact absurd h.symm (a.rangeWord.ne_numeral g.hmin)
      | some a' =>
          rw [ha, ha', Option.elim_some, Option.elim_some, Announcement.text, Announcement.text,
            List.append_assoc, List.append_assoc] at h
          obtain ⟨hadd, h⟩ := Announcement.word_unique h
          obtain ⟨hseparator, h⟩ := Separator.unique h
          refine eq_of_expression_eq hbefore ?_ h
          rw [ha, ha', Announcement.ext hadd hseparator]

end Form

end MacroBody.AddressRange
