/-
From the tree of a pattern to what it means. Flags hold for the rest of
the group they stand in. Texts are Unicode: what could match a part of a
character is refused, and so is what would need the tables of Unicode.
-/
import LinkOrder.Regex.Combine
import LinkOrder.Regex.Group

namespace LinkOrder.Regex

/-- The flags that change what a pattern means. -/
structure Flags where
  ignoreCase : Bool := false
  multiLine : Bool := false
  dotAll : Bool := false
  /-- Whether repetitions are greedy where they are marked as reluctant,
  and reluctant where they are not. -/
  swapGreed : Bool := false
  unicode : Bool := true
  /-- Whether lines also end in carriage returns. -/
  crlf : Bool := false
deriving DecidableEq, Repr, Inhabited

/-- The flags as items change them. -/
def Flags.change (flags : Flags) (items : List FlagItem) : Flags :=
  let state := fun (flag : Flag) => (flagState? flag true items).getD
  { ignoreCase := state .ignoreCase flags.ignoreCase
    multiLine := state .multiLine flags.multiLine
    dotAll := state .dotAll flags.dotAll
    swapGreed := state .swapGreed flags.swapGreed
    unicode := state .unicode flags.unicode
    crlf := state .crlf flags.crlf }

/-- Refuses a part of a pattern. -/
def refuse {α : Type} (reason : Reason) (span : Span) : Except Fault α :=
  .error { reason := reason, span := span }

-- ============================================================= classes

/-- The characters of a class of ASCII. -/
def NamedClass.ranges : NamedClass → List (Char × Char)
  | alnum => [('0', '9'), ('A', 'Z'), ('a', 'z')]
  | alpha => [('A', 'Z'), ('a', 'z')]
  | ascii => [('\x00', '\x7f')]
  | blank => [('\t', '\t'), (' ', ' ')]
  | cntrl => [('\x00', '\x1f'), ('\x7f', '\x7f')]
  | digit => [('0', '9')]
  | graph => [('!', '~')]
  | lower => [('a', 'z')]
  | print => [(' ', '~')]
  | punct => [('!', '/'), (':', '@'), ('[', '`'), ('\x7b', '~')]
  | space => [('\t', '\r'), (' ', ' ')]
  | upper => [('A', 'Z')]
  | word => [('0', '9'), ('A', 'Z'), ('_', '_'), ('a', 'z')]
  | xdigit => [('0', '9'), ('A', 'F'), ('a', 'f')]

/-- The class of ASCII that a short class stands for where Unicode is
switched off. -/
def ShortClass.named : ShortClass → NamedClass
  | digit => .digit
  | space => .space
  | word => .word

/-- The name of a property, without what does not tell names apart. -/
def normalName (name : List Char) : List Char :=
  let is := (name.take 2).map Char.toLower = ['i', 's']
  let body := (if is then name.drop 2 else name).filter fun c =>
    c.toNat < 0x80 && c ≠ ' ' && c ≠ '_' && c ≠ '-'
  let body := body.map Char.toLower
  if is && body = ['c'] then ['i', 's', 'c'] else body

/-- Why a property is refused. No property is known; a few names are taken
for values of one. -/
def propertyReason (name : List Char) : Reason :=
  let isPair := name.contains ':' || name.contains '='
  if !isPair && ["cf", "sc", "lc"].contains (String.ofList (normalName name))
  then .propertyValueNotFound
  else .propertyNotFound

/-- A class by a property, which is refused. -/
def refuseProperty {α : Type} (flags : Flags) (span : Span)
    (name : List Char) : Except Fault α :=
  refuse (if flags.unicode then propertyReason name else .unicodeNotAllowed)
    span

/-- The characters of a short class. -/
def ShortClass.set (flags : Flags) (span : Span) (negated : Bool)
    (kind : ShortClass) : Except Fault CharSet :=
  if flags.unicode then refuse .unicodeClassNotFound span
  else if negated then refuse .notUtf8 span
  else .ok (.ofRanges kind.named.ranges)

/-- What a class holds. -/
structure ClassValue where
  set : CharSet
  /-- Whether the set has both cases of its letters. -/
  folded : Bool
deriving Repr

namespace ClassValue

/-- The class that holds nothing. -/
def empty : ClassValue := ⟨.empty, true⟩

/-- What is in either class. -/
def union (a b : ClassValue) : ClassValue :=
  ⟨a.set.union b.set, a.folded && b.folded⟩

/-- The class with both cases of its letters, if cases are ignored. -/
def fold (flags : Flags) (span : Span) (value : ClassValue) :
    Except Fault ClassValue :=
  if !flags.ignoreCase || value.folded then .ok value
  else if flags.unicode then refuse .unicodeCaseUnavailable span
  else .ok ⟨value.set.foldCase, true⟩

/-- The class, or what it does not hold, both cases being in it if cases
are ignored. -/
def settled (flags : Flags) (span : Span) (negated : Bool)
    (value : ClassValue) : Except Fault ClassValue := do
  let value ← value.fold flags span
  if !negated then .ok value
  else if !flags.unicode then refuse .notUtf8 span
  else .ok { value with set := value.set.complement }

/-- A combination of two classes. -/
def combine (operation : ClassOperation) (a b : ClassValue) : ClassValue :=
  let set :=
    match operation with
    | .intersection => a.set.inter b.set
    | .difference => a.set.sdiff b.set
    | .symmetricDifference => a.set.symmDiff b.set
  ⟨set, a.folded && b.folded⟩

end ClassValue

/-- Accepts a character between brackets. -/
def Literal.acceptInClass (flags : Flags) (l : Literal) :
    Except Fault Unit :=
  if flags.unicode || l.char.toNat < 0x80 then .ok ()
  else if l.isByte then refuse .notUtf8 l.span
  else refuse .unicodeNotAllowed l.span

/-- What a class holds, as flags have it. -/
def ClassTree.value (flags : Flags) :
    ClassTree → Except Fault ClassValue
  | empty _ => .ok .empty
  | literal l => do
      l.acceptInClass flags
      return ⟨.single l.char, false⟩
  | range _ low high => do
      low.acceptInClass flags
      high.acceptInClass flags
      return ⟨.range low.char high.char, false⟩
  | named span negated kind =>
      ClassValue.settled flags span negated
        ⟨.ofRanges kind.ranges, false⟩
  | short span negated kind => do
      return ⟨← kind.set flags span negated, false⟩
  | property span name => refuseProperty flags span name
  | brackets span negated inner => do
      (← inner.value flags).settled flags span negated
  | union _ items => do
      return (← values items).foldl ClassValue.union .empty
  | operation _ op left right => do
      let a ← left.value flags
      let b ← right.value flags
      let b ← b.fold flags right.span
      let a ← a.fold flags left.span
      return .combine op a b
where
  /-- What each of some classes holds. -/
  values : List ClassTree → Except Fault (List ClassValue)
    | [] => .ok []
    | item :: items => do
        let first ← item.value flags
        return first :: (← values items)

-- ============================================================= patterns

/-- The characters that match a literal. -/
def Literal.set (flags : Flags) (l : Literal) : Except Fault CharSet :=
  if !flags.unicode && l.isByte && l.char.toNat ≥ 0x80 then
    refuse .notUtf8 l.span
  else if !flags.ignoreCase then .ok (.single l.char)
  else if flags.unicode then refuse .unicodeCaseUnavailable l.span
  else .ok (CharSet.single l.char).foldCase

/-- The characters that match a dot. -/
def dotSet (flags : Flags) (span : Span) : Except Fault CharSet :=
  if !flags.unicode then refuse .notUtf8 span
  else if flags.dotAll then .ok .all
  else
    let ends := if flags.crlf then [('\n', '\n'), ('\r', '\r')]
      else [('\n', '\n')]
    .ok (CharSet.ofRanges ends).complement

/-- The look of an assertion. -/
def Assertion.look (flags : Flags) : Assertion → Look
  | lineStart =>
      if !flags.multiLine then .textStart
      else if flags.crlf then .returnStart else .lineStart
  | lineEnd =>
      if !flags.multiLine then .textStop
      else if flags.crlf then .returnStop else .lineStop
  | textStart => .textStart
  | textEnd => .textStop
  | wordBoundary => .word .either flags.unicode
  | noWordBoundary => .word .neither flags.unicode
  | wordStart => .word .start flags.unicode
  | wordEnd => .word .stop flags.unicode
  | wordStartHalf => .word .startHalf flags.unicode
  | wordEndHalf => .word .stopHalf flags.unicode

/-- What a pattern means under the flags that hold where it starts, and
the flags that hold behind it. -/
def Tree.meaning : Tree → StateT Flags (Except Fault) Expression
  | empty _ => return .empty
  | flags _ items => do
      modify (·.change items)
      return .empty
  | literal l => do
      let flags ← get
      return .ofSet (← l.set flags) !flags.unicode
  | dot span => do return .ofSet (← dotSet (← get) span) false
  | assertion _ kind => do return .look (kind.look (← get))
  | short span negated kind => do
      let flags ← get
      return .ofSet (← kind.set flags span negated) !flags.unicode
  | property span name => do refuseProperty (← get) span name
  | brackets span negated inner => do
      let flags ← get
      let value ← (← inner.value flags).settled flags span negated
      return .ofSet value.set !flags.unicode
  | repetition _ least most reluctant inner => do
      let meaning ← inner.meaning
      let greedy := reluctant == (← get).swapGreed
      return .repeated least most greedy meaning
  | group _ captures items inner => do
      let outside ← get
      set (outside.change items)
      let meaning ← inner.meaning
      set outside
      return if captures then .capture meaning else meaning
  | alternation _ branches => do return .choiceOf (← meanings branches)
  | concat _ parts => do return .sequenceOf (← meanings parts)
where
  /-- What each of some patterns means, one behind the other. -/
  meanings : List Tree → StateT Flags (Except Fault) (List Expression)
    | [] => return []
    | tree :: trees => do
        let first ← tree.meaning
        return first :: (← meanings trees)

end LinkOrder.Regex
