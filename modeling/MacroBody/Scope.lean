import MacroBody.Grammar.BlockTag

/-!
# Block scopes

A scope is the stack of block tags that are open while the lines of a body are walked through. A tag
may not be opened while it is open, a closing line must name the innermost open tag, and nesting of
different tags can be switched off.

A call on a scope gives its result together with the scope after it, also where the result is an
error: the caller goes on with that scope.
-/

namespace MacroBody

/-- The rules that a block tag line, or the end of a body, can break. -/
inductive ScopeError
  | alreadyOpen (tag : BlockTag)
  | nestingNotAllowed (tag outer : BlockTag)
  | closeWithoutOpen (tag : BlockTag)
  | closeMismatch (tag innermost : BlockTag)
  | unclosed (tags : List BlockTag)
  deriving DecidableEq, Repr

namespace ScopeError

/-- The wording of a broken rule. -/
def message : ScopeError → Text
  | alreadyOpen tag => "blocktag <".toList ++ tag.name ++ "> is already open".toList
  | nestingNotAllowed tag outer =>
    "nested blocktag <".toList ++ tag.name ++ "> inside <".toList ++ outer.name ++ ">".toList
  | closeWithoutOpen tag =>
    "closing blocktag </".toList ++ tag.name ++ "> without matching open".toList
  | closeMismatch tag innermost =>
    "closing blocktag </".toList ++ tag.name ++ "> but <".toList ++ innermost.name ++
      "> is open".toList
  | unclosed tags =>
    "unclosed blocktag(s) ".toList ++
      Text.join ", ".toList (tags.map fun tag => '<' :: tag.name ++ ['>'])

end ScopeError

/-- The open block tags, innermost first. -/
structure Scope where
  stack : List BlockTag := []
  allowNesting : Bool := true
  deriving DecidableEq, Repr

namespace Scope

/-- A scope in which nothing is open. -/
def new (allowNesting : Bool) : Scope where
  allowNesting := allowNesting

/-- The open tags, outermost first. -/
def openTags (s : Scope) : List BlockTag :=
  s.stack.reverse

/-- The number of open tags. -/
def depth (s : Scope) : Nat :=
  s.stack.length

/-- Whether a tag is open at any depth. -/
def isOpen (s : Scope) (tag : BlockTag) : Bool :=
  s.stack.contains tag

/-- The tag that was opened last among those still open. -/
def innermost (s : Scope) : Option BlockTag :=
  s.stack.head?

/-- Opens a tag. -/
def enter (s : Scope) (tag : BlockTag) : Except ScopeError Unit × Scope :=
  if s.isOpen tag then (.error (.alreadyOpen tag), s)
  else
    match s.allowNesting, s.stack with
    | false, outer :: _ => (.error (.nestingNotAllowed tag outer), s)
    | _, _ => (.ok (), { s with stack := tag :: s.stack })

/-- Closes a tag. -/
def exit (s : Scope) (tag : BlockTag) : Except ScopeError Unit × Scope :=
  match s.stack with
  | [] => (.error (.closeWithoutOpen tag), s)
  | top :: below =>
    if top = tag then (.ok (), { s with stack := below })
    else (.error (.closeMismatch tag top), s)

/-- Opens or closes the tag of a block tag line. -/
def apply (s : Scope) (line : BlockTagLine) : Except ScopeError Unit × Scope :=
  if line.enter then s.enter line.tag else s.exit line.tag

/-- The error of ending a body here, if any tag is open. -/
def unclosed? (s : Scope) : Option ScopeError :=
  if s.stack.isEmpty then none else some (.unclosed s.openTags)

end Scope

end MacroBody
