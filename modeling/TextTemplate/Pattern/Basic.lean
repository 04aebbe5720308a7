/-!
# Patterns

A pattern describes texts: literal characters, classes of characters, anchors, repetition, groups
and alternatives. Nothing here matches a text against a pattern. What the library asks is whether a
pattern makes sense, which depends on how deep it nests (`depth`), on the names of its groups
(`names`), and on what its parts mean under the flags that hold where they stand (`meaning?`).

By default a pattern speaks of characters. With the flag for Unicode turned off it speaks of single
bytes, and then a part that could match half a character has no meaning. A boundary between words, on
the other hand, has a meaning for bytes only, since matching goes byte by byte.
-/

namespace TextTemplate

namespace Pattern

/-- **The flags of a pattern.** -/
inductive Flag where
  | ignoreCase
  | multiLine
  | dotMatchesAll
  | swapGreed
  | unicode
  | carriageReturn
  | verbose
deriving DecidableEq, Repr

/-- Flags that are turned on or off. -/
abbrev Changes := List (Flag × Bool)

/-- A literal character, and whether it is written as the number of a byte. -/
structure Literal where
  char : Char
  isByte : Bool := false
deriving DecidableEq, Repr

/-- **A set of characters** between brackets. -/
inductive CharSet where
  | literal (l : Literal)
  | range (first last : Literal)
  /-- A class with a name, such as `[:alpha:]`. -/
  | named (negated : Bool)
  /-- A class with a letter, such as `\d`. -/
  | shorthand (negated : Bool)
  /-- A general category of characters, such as `\pL`. -/
  | category
  | bracketed (negated : Bool) (inner : CharSet)
  | union (items : List CharSet)
  /-- An intersection or difference. -/
  | operation (left right : CharSet)
deriving Repr

namespace CharSet

/-- The set of what some items hold together. -/
def ofItems : List CharSet → CharSet
  | [item] => item
  | items => .union items

mutual

/-- How deep a set nests. -/
def depth : CharSet → Nat
  | .bracketed _ inner => inner.depth + 1
  | .union [] => 0
  | .union items => depthOfAll items + 1
  | .operation left right => max left.depth right.depth + 1
  | _ => 0

/-- How deep the deepest of some sets nests. -/
def depthOfAll : List CharSet → Nat
  | [] => 0
  | item :: items => max item.depth (depthOfAll items)

end

mutual

/-- **Whether a set has a meaning for bytes**: it holds ASCII characters only. -/
def isAscii : CharSet → Bool
  | .literal l => l.char.toNat < 0x80
  | .range first last => first.char.toNat < 0x80 && last.char.toNat < 0x80
  | .named negated => !negated
  | .shorthand negated => !negated
  | .category => false
  | .bracketed negated inner => !negated && inner.isAscii
  | .union items => allAscii items
  | .operation left right => left.isAscii && right.isAscii

/-- Whether each of some sets has a meaning for bytes. -/
def allAscii : List CharSet → Bool
  | [] => true
  | item :: items => item.isAscii && allAscii items

end

end CharSet

end Pattern

open Pattern in
/-- **A pattern.** -/
inductive Pattern where
  /-- Turns flags on or off up to the end of the group. -/
  | flags (changes : Changes)
  | literal (l : Literal)
  /-- Any character. -/
  | dot
  /-- The start or end of a line or of the text. -/
  | anchor
  /-- A place where a word starts or ends, or one where none does. -/
  | wordBoundary
  | shorthand (negated : Bool)
  | category
  | set (negated : Bool) (inner : CharSet)
  | repetition (inner : Pattern)
  | group (name : Option String) (changes : Changes) (inner : Pattern)
  | sequence (items : List Pattern)
  | choice (branches : List Pattern)
deriving Repr

namespace Pattern

/-- The pattern for some patterns one after the other. -/
def ofSequence : List Pattern → Pattern
  | [item] => item
  | items => .sequence items

/-- The pattern for a choice, if there is more than one branch. -/
def ofBranches : List Pattern → Pattern
  | [branch] => branch
  | branches => .choice branches

/-! ## Nesting -/

mutual

/-- **How deep a pattern nests.** -/
def depth : Pattern → Nat
  | .set _ inner => inner.depth + 1
  | .repetition inner => inner.depth + 1
  | .group _ _ inner => inner.depth + 1
  | .sequence [] => 0
  | .sequence items => depthOfAll items + 1
  | .choice branches => depthOfAll branches + 1
  | _ => 0

/-- How deep the deepest of some patterns nests. -/
def depthOfAll : List Pattern → Nat
  | [] => 0
  | item :: items => max item.depth (depthOfAll items)

end

/-! ## Names -/

mutual

/-- **The names of the groups**, in the order in which the groups open. -/
def names : Pattern → List String
  | .repetition inner => inner.names
  | .group name _ inner => name.toList ++ inner.names
  | .sequence items => namesOfAll items
  | .choice branches => namesOfAll branches
  | _ => []

/-- The names of the groups in some patterns. -/
def namesOfAll : List Pattern → List String
  | [] => []
  | item :: items => item.names ++ namesOfAll items

end

/-! ## Meaning -/

/-- The state of a flag after changes. -/
def stateAfter (flag : Flag) (state : Bool) (changes : Changes) : Bool :=
  (changes.lookup flag).getD state

/-- Whether a literal has a meaning. The number of a byte has to be that of an ASCII character where
bytes are meant. -/
def Literal.hasMeaning (unicode : Bool) (l : Literal) : Bool :=
  unicode || !l.isByte || l.char.toNat < 0x80

/-- The state of a flag as it was, if a part has a meaning. -/
def keepIf (hasMeaning state : Bool) : Option Bool := if hasMeaning then some state else none

mutual

/-- **The flag for Unicode behind a pattern**, or `none` if the pattern has no meaning with the flag as
it is in front of it. A group leaves the flag as it was, a change lasts over the branches that
follow. -/
def meaning? (unicode : Bool) : Pattern → Option Bool
  | .flags changes => some (stateAfter .unicode unicode changes)
  | .literal l => keepIf (l.hasMeaning unicode) unicode
  | .dot => keepIf unicode unicode
  | .anchor => some unicode
  | .wordBoundary => keepIf (!unicode) unicode
  | .shorthand negated => keepIf (unicode || !negated) unicode
  | .category => keepIf unicode unicode
  | .set negated inner => keepIf (unicode || (!negated && inner.isAscii)) unicode
  | .repetition inner => inner.meaning? unicode
  | .group _ changes inner =>
    (inner.meaning? (stateAfter .unicode unicode changes)).map fun _ => unicode
  | .sequence items => meaningOfAll? unicode items
  | .choice branches => meaningOfAll? unicode branches

/-- The flag for Unicode behind some patterns one after the other. -/
def meaningOfAll? (unicode : Bool) : List Pattern → Option Bool
  | [] => some unicode
  | item :: items => (item.meaning? unicode).bind fun unicode => meaningOfAll? unicode items

end

/-- How deep a pattern may nest. -/
def nestingLimit : Nat := 250

/-- **Whether a pattern makes sense**: it does not nest too deep, no two groups have one name, and all
its parts have a meaning. -/
def makesSense (p : Pattern) : Bool :=
  p.depth ≤ nestingLimit && p.names.Nodup && (p.meaning? true).isSome

end Pattern

end TextTemplate
