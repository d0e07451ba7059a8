import MacroBody.Proofs.Text.Joined

/-!
# Lists of tokens as they are written

A list of tokens is written with a comma between two of them and any blanks around each comma.
`TokenList` is such a way of writing, blanks included.

A text is read as a list of tokens if it is a written list with blanks around it (`tokens?_iff`).
Where more text follows a list, that text settles where the list ends: if it starts with no word
character and, after its blanks, with no comma (`EndsList`), then no other list starts the same text
(`TokenList.unique`).
-/

namespace MacroBody.Text

/-- Blanks, perhaps none. -/
@[ext]
structure Blanks where
  text : Text
  blank : AllBlank text

/-- Blanks, at least one. -/
@[ext]
structure Gap extends Blanks where
  ne : text ≠ []

/-- One space. -/
def Gap.space : Gap :=
  ⟨⟨[' '], by decide⟩, by simp⟩

/-- A token with the evidence that it is one. -/
@[ext]
structure Token where
  text : Text
  isToken : text.isToken = true

/-- A way to write a list of tokens: a comma between two of them, and any blanks around it. -/
inductive TokenList
  | last (token : Token)
  | cons (token : Token) (u v : Blanks) (more : TokenList)

/-- A list of tokens ends before the text: neither its last token nor the list goes on in it. -/
def EndsList (t : Text) : Prop :=
  Stops isWord t ∧ Stops (· = ',') t.trimStart

/-! ## Blanks and tokens at the start of a text -/

section Parts

variable {b b' : Text}

/-- Blanks without a blank after them are all the blanks there. -/
theorem Blanks.unique {u u' : Blanks} (h : u.text ++ b = u'.text ++ b') (hb : Stops isBlank b)
    (hb' : Stops isBlank b') : u = u' ∧ b = b' := by
  obtain ⟨htext, hrest⟩ := span_unique u.blank u'.blank hb hb' h
  exact ⟨Blanks.ext htext, hrest⟩

/-- A gap ends where the blanks end. -/
theorem Gap.unique {u u' : Gap} (h : u.text ++ b = u'.text ++ b') (hb : Stops isBlank b)
    (hb' : Stops isBlank b') : u = u' ∧ b = b' := by
  obtain ⟨htext, hrest⟩ := span_unique u.blank u'.blank hb hb' h
  exact ⟨Gap.ext htext, hrest⟩

/-- A token without a word character after it is whole. -/
theorem Token.unique {t t' : Token} (h : t.text ++ b = t'.text ++ b') (hb : Stops isWord b)
    (hb' : Stops isWord b') : t = t' ∧ b = b' := by
  obtain ⟨htext, hrest⟩ :=
    span_unique (isToken_iff.1 t.isToken).2 (isToken_iff.1 t'.isToken).2 hb hb' h
  exact ⟨Token.ext htext, hrest⟩

/-- Blanks at the end of a text are no part of a word. -/
theorem Blanks.stops (u : Blanks) : Stops isWord u.text := by
  have hstops : Stops isWord (u.text ++ []) := stops_isWord_of_allBlank u.blank stops_nil
  rwa [List.append_nil] at hstops

/-- Blanks do not separate items. -/
theorem Blanks.comma_not_mem (u : Blanks) : ',' ∉ u.text := by
  intro hmem
  cases u.blank ',' hmem

/-- A gap is no part of a word. -/
theorem Gap.stops (u : Gap) (rest : Text) : Stops isWord (u.text ++ rest) := by
  obtain ⟨c, more, hu⟩ := List.exists_cons_of_ne_nil u.ne
  rw [hu]
  exact stops_cons.2 (isWord_of_isBlank (u.blank c (hu ▸ List.mem_cons_self)))

/-- A gap is where a word may end. -/
theorem Gap.atBlank (u : Gap) (rest : Text) : (u.text ++ rest).atBlank = true := by
  obtain ⟨c, more, hu⟩ := List.exists_cons_of_ne_nil u.ne
  rw [hu]
  exact u.blank c (hu ▸ List.mem_cons_self)

/-- Blanks up to the end of the text are where a word may end. -/
theorem Blanks.atBlank (u : Blanks) : u.text.atBlank = true := by
  cases hu : u.text with
  | nil => rfl
  | cons c more => exact u.blank c (hu ▸ List.mem_cons_self)

/-- A token ends the blanks in front of it. -/
theorem Token.stops (t : Token) (rest : Text) : Stops isBlank (t.text ++ rest) :=
  stops_isBlank_token t.isToken rest

/-- A token starts with a word character. -/
theorem Token.isWord_head {t : Token} {c : Char} (h : t.text ++ b = c :: b') : isWord c = true := by
  obtain ⟨hne, hword⟩ := isToken_iff.1 t.isToken
  obtain ⟨d, more, ht⟩ := List.exists_cons_of_ne_nil hne
  rw [ht] at h
  obtain rfl : d = c := (List.cons.inj h).1
  exact hword d (ht ▸ List.mem_cons_self)

/-- A token is more than blanks. -/
theorem Token.not_allBlank (t : Token) : ¬ AllBlank t.text := by
  intro hblank
  obtain ⟨hne, hword⟩ := isToken_iff.1 t.isToken
  obtain ⟨c, hc⟩ := List.exists_mem_of_ne_nil _ hne
  have hc' := hword c hc
  rw [isWord_of_isBlank (hblank c hc)] at hc'
  cases hc'

/-- A word is followed by a gap, and all of the gap is skipped. -/
theorem afterWord?_iff {t w : Text} :
    t.afterWord? w = some b ↔ Stops isBlank b ∧ ∃ v : Gap, t = w ++ (v.text ++ b) := by
  rw [afterWord?_eq_some]
  constructor
  · intro h
    obtain ⟨c, more, rfl, hc, rfl⟩ := h
    obtain ⟨u, hu, hmore⟩ := exists_trimStart more
    have hblank : AllBlank (c :: u) := by
      simpa [AllBlank] using ⟨hc, hu⟩
    refine ⟨stops_trimStart more, ⟨⟨c :: u, hblank⟩, by simp⟩, ?_⟩
    rw [List.cons_append, ← hmore]
  · intro h
    obtain ⟨hb, v, rfl⟩ := h
    obtain ⟨c, more, hv⟩ := List.exists_cons_of_ne_nil v.ne
    have hblank := hv ▸ v.blank
    refine ⟨c, more ++ b, by rw [hv]; rfl, hblank c List.mem_cons_self, ?_⟩
    exact (trimStart_append (fun d hd => hblank d (List.mem_cons_of_mem c hd)) hb).symm

/-- A list ends before blanks and a word, and before blanks at the end of the text. -/
theorem endsList_of_atBlank (hblank : b.atBlank = true) (hword : Stops (!isWord ·) b.trimStart) :
    EndsList b := by
  constructor
  · intro c hc
    cases b with
    | nil => cases hc
    | cons d b =>
        obtain rfl : d = c := Option.some.inj hc
        exact isWord_of_isBlank hblank
  · intro c hc
    have hc' := hword c hc
    by_contra hcomma
    obtain rfl : c = ',' := by simpa using hcomma
    cases hc'

end Parts

namespace TokenList

/-- The text that is written. -/
def text : TokenList → Text
  | last token => token.text
  | cons token u v more => token.text ++ (u.text ++ ',' :: (v.text ++ more.text))

/-- The tokens, in order and with repetitions. -/
def tokens : TokenList → List Text
  | last token => [token.text]
  | cons token _ _ more => token.text :: more.tokens

/-- The items that are named are tokens. -/
theorem isToken_of_mem_tokens (l : TokenList) : ∀ t ∈ l.tokens, t.isToken = true := by
  induction l with
  | last token => simpa [tokens] using token.isToken
  | cons token u v more ih => simpa [tokens] using ⟨token.isToken, ih⟩

/-- A token list has a first token. -/
theorem tokens_ne_nil (l : TokenList) : l.tokens ≠ [] := by
  cases l <;> exact List.cons_ne_nil _ _

/-- Any tokens can be written as a list, with a comma and a space between two of them. -/
theorem exists_of_tokens {tokens : List Text} (hne : tokens ≠ [])
    (htokens : ∀ token ∈ tokens, token.isToken = true) :
    ∃ l : TokenList, l.text = Text.join ", ".toList tokens ∧ l.tokens = tokens := by
  induction tokens with
  | nil => exact absurd rfl hne
  | cons first more ih =>
      obtain ⟨hfirst, hmore⟩ := List.forall_mem_cons.1 htokens
      cases more with
      | nil => exact ⟨.last ⟨first, hfirst⟩, by simp [Text.join, text], rfl⟩
      | cons second more =>
          obtain ⟨l, htext, hl⟩ := ih (List.cons_ne_nil second more) hmore
          refine ⟨.cons ⟨first, hfirst⟩ ⟨[], allBlank_nil⟩ Gap.space.toBlanks l, ?_, ?_⟩
          · rw [join_cons_cons, ← htext]
            rfl
          · rw [TokenList.tokens, hl]

/-- A list starts with its first token. -/
theorem stops_text (l : TokenList) (rest : Text) : Stops isBlank (l.text ++ rest) := by
  cases l with
  | last token => exact token.stops rest
  | cons token u v more =>
      rw [text, List.append_assoc]
      exact token.stops _

/-- A list ends with its last token. -/
theorem stops_text_reverse (l : TokenList) (rest : Text) :
    Stops isBlank (l.text.reverse ++ rest) := by
  induction l generalizing rest with
  | last token =>
      have hreverse : Text.isToken token.text.reverse = true := by
        simpa [isToken_iff] using isToken_iff.1 token.isToken
      exact stops_isBlank_token hreverse rest
  | cons token u v more ih =>
      simp only [text, List.reverse_append, List.reverse_cons, List.append_assoc]
      exact ih _

/-- A token list is more than blanks. -/
theorem not_allBlank (l : TokenList) : ¬ AllBlank l.text := by
  cases l with
  | last token => exact token.not_allBlank
  | cons token u v more =>
      rw [text, allBlank_append]
      intro h
      exact token.not_allBlank h.1

/-! ## Reading a list -/

/-- The items between the commas are the tokens. -/
theorem items_text (l : TokenList) (u v : Blanks) :
    Text.items (u.text ++ l.text ++ v.text) = l.tokens := by
  induction l generalizing u with
  | last token =>
      have hone : ',' ∉ u.text ++ token.text ++ v.text := by
        simp [u.comma_not_mem, v.comma_not_mem, comma_not_mem_of_isToken token.isToken]
      rw [items, text, List.splitOn_eq_singleton hone, List.map_singleton,
        trim_append u.blank v.blank (tight_of_isToken token.isToken), tokens]
  | cons token u' v' more ih =>
      have hfirst : ',' ∉ u.text ++ token.text ++ u'.text := by
        simp [u.comma_not_mem, u'.comma_not_mem, comma_not_mem_of_isToken token.isToken]
      have htext : u.text ++ (cons token u' v' more).text ++ v.text =
          u.text ++ token.text ++ u'.text ++ ',' :: (v'.text ++ more.text ++ v.text) := by
        simp [text]
      rw [htext, items, List.splitOn_append_cons_self_of_not_mem hfirst, List.map_cons,
        trim_append u.blank u'.blank (tight_of_isToken token.isToken), ← items, ih, tokens]

/-- Parts that are tokens with blanks around them, joined by commas, are a list. -/
theorem exists_of_join {parts : List Text} (hne : parts ≠ [])
    (hparts : ∀ part ∈ parts, (trim part).isToken = true) :
    ∃ (u : Blanks) (l : TokenList) (v : Blanks),
      Text.join [','] parts = u.text ++ l.text ++ v.text ∧ l.tokens = parts.map trim := by
  induction parts with
  | nil => exact absurd rfl hne
  | cons first more ih =>
      obtain ⟨u, v, hu, hv, hfirst⟩ := exists_trim first
      have htoken := hparts first List.mem_cons_self
      cases more with
      | nil =>
          refine ⟨⟨u, hu⟩, .last ⟨first.trim, htoken⟩, ⟨v, hv⟩, ?_, rfl⟩
          simpa [Text.join, text] using hfirst
      | cons second more =>
          obtain ⟨u', l, v', hjoin, htokens⟩ :=
            ih (by simp) fun part hpart => hparts part (List.mem_cons_of_mem _ hpart)
          refine ⟨⟨u, hu⟩, .cons ⟨first.trim, htoken⟩ ⟨v, hv⟩ u' l, v', ?_, ?_⟩
          · rw [join_cons_cons, hjoin, text]
            conv_lhs => rw [hfirst]
            simp
          · rw [tokens, htokens]
            rfl

/-! ## Where a list ends -/

/-- Between two tokens there is no word character. -/
theorem stops_separator (u : Blanks) (t : Text) : Stops isWord (u.text ++ ',' :: t) :=
  stops_isWord_of_allBlank u.blank (stops_cons.2 (by decide))

/-- A list goes on behind a comma. -/
theorem not_endsList_separator (u : Blanks) (t : Text) : ¬ EndsList (u.text ++ ',' :: t) := by
  intro h
  have hcomma := h.2
  rw [trimStart_append u.blank (stops_cons.2 (by decide))] at hcomma
  cases stops_cons.1 hcomma

/-- **A text starts with one list only,** if the list ends there. -/
theorem unique {l l' : TokenList} {rest rest' : Text} (h : l.text ++ rest = l'.text ++ rest')
    (hends : EndsList rest) (hends' : EndsList rest') : l = l' ∧ rest = rest' := by
  induction l generalizing l' with
  | last token =>
      cases l' with
      | last token' =>
          obtain ⟨rfl, rfl⟩ := Token.unique h hends.1 hends'.1
          exact ⟨rfl, rfl⟩
      | cons token' u' v' more' =>
          simp only [text, List.append_assoc, List.cons_append] at h
          obtain ⟨-, rfl⟩ := Token.unique h hends.1 (stops_separator u' _)
          exact absurd hends (not_endsList_separator u' _)
  | cons token u v more ih =>
      cases l' with
      | last token' =>
          simp only [text, List.append_assoc, List.cons_append] at h
          obtain ⟨-, rfl⟩ := Token.unique h (stops_separator u _) hends'.1
          exact absurd hends' (not_endsList_separator u _)
      | cons token' u' v' more' =>
          simp only [text, List.append_assoc, List.cons_append] at h
          obtain ⟨rfl, hrest⟩ := Token.unique h (stops_separator u _) (stops_separator u' _)
          obtain ⟨rfl, hcomma⟩ := Blanks.unique hrest (stops_cons.2 (by decide))
            (stops_cons.2 (by decide))
          obtain ⟨rfl, hmore⟩ := Blanks.unique (List.cons.inj hcomma).2 (more.stops_text _)
            (more'.stops_text _)
          obtain ⟨rfl, rfl⟩ := ih hmore
          exact ⟨rfl, rfl⟩

end TokenList

/-- **What is read as a list of tokens** is a written list with blanks around it. -/
theorem tokens?_iff {t : Text} {tokens : List Text} :
    t.tokens? = some tokens ↔
      ∃ (u : Blanks) (l : TokenList) (v : Blanks),
        t = u.text ++ l.text ++ v.text ∧ l.tokens = tokens := by
  constructor
  · intro h
    obtain ⟨rfl, htokens⟩ := tokens?_eq_some.1 h
    obtain ⟨u, l, v, hjoin, hl⟩ := TokenList.exists_of_join (List.splitOn_ne_nil ',' t)
      fun part hpart => htokens _ (List.mem_map_of_mem hpart)
    have htext : Text.join [','] (t.splitOn ',') = t := List.intercalate_splitOn ','
    exact ⟨u, l, v, htext ▸ hjoin, hl⟩
  · intro h
    obtain ⟨u, l, v, rfl, rfl⟩ := h
    exact tokens?_eq_some.2 ⟨l.items_text u v, l.isToken_of_mem_tokens⟩

end MacroBody.Text
