/-
Texts that matches start with. Where they are few and short they are
found first; where they are all that matches, nothing else has to be
looked for, and no machine is needed. What is known of them is given up
when they become too many or too long.
-/
import LinkOrder.Regex.Expression
import LinkOrder.Text.Utf8

namespace LinkOrder.Regex

/-- A text that matches start with, and whether it is a match already. -/
structure Needle where
  bytes : List UInt8
  isWhole : Bool
deriving DecidableEq, Repr, Inhabited

/-- The start of the needle, which is not a match unless it is all of
it. -/
def Needle.cut (length : Nat) (needle : Needle) : Needle :=
  if needle.bytes.length ≤ length then needle
  else ⟨needle.bytes.take length, false⟩

/-- The needle as the start of a match. -/
def Needle.started (needle : Needle) : Needle :=
  { needle with isWhole := false }

/-- The needle with more behind it, if it is not the start of a match
only. -/
def Needle.followedBy (needle : Needle) (others : List Needle) :
    List Needle :=
  if needle.isWhole then
    others.map fun other => ⟨needle.bytes ++ other.bytes, other.isWhole⟩
  else [needle]

/-- The needles that matches start with, the preferred ones first. It is
none if matches can start with anything. -/
abbrev Needles := Option (List Needle)

namespace Needles

/-- How many needles there may be. -/
def countLimit : Nat := 250

/-- How many bytes a needle may have. -/
def lengthLimit : Nat := 100

/-- How many characters of a set are told apart. -/
def setLimit : Nat := 10

/-- How many rounds of a repetition are told apart. -/
def roundLimit : Nat := 10

/-- A needle behind others, of which the last comes first. Of two equal
ones that meet one is left. -/
def push (needles : List Needle) (next : Needle) : List Needle :=
  match needles with
  | last :: others =>
      if last.bytes = next.bytes then
        ⟨last.bytes, last.isWhole && next.isWhole⟩ :: others
      else next :: last :: others
  | [] => [next]

/-- The needles, each of them once where equal ones meet. -/
def dedup (needles : List Needle) : List Needle :=
  (needles.foldl push []).reverse

/-- The needles of the empty text. -/
def blank : Needles := some [⟨[], true⟩]

/-- The needles of some texts. -/
def ofTexts (texts : List (List Char)) : Needles :=
  some (texts.map fun text =>
    Needle.cut lengthLimit ⟨Utf8.encode text, true⟩)

/-- Whether nothing is gained by what follows the needles. -/
def isSettled (needles : Needles) : Bool :=
  match needles with
  | none => true
  | some needles => needles.all (!·.isWhole)

/-- The needles as starts of matches. -/
def started (needles : Needles) : Needles := needles.map (·.map .started)

/-- Whether a number is one of needles that may be. -/
def allowsCount (a b : Needles) (f : Nat → Nat → Nat) : Bool :=
  match a, b with
  | some as, some bs => f as.length bs.length ≤ countLimit
  | _, _ => true

/-- The needles of one thing behind another. -/
def followedBy (a b : Needles) : Needles :=
  match a, (if allowsCount a b (· * ·) then b else none) with
  | none, _ => none
  | some as, none =>
      if as.any (·.bytes.isEmpty) then none else some (as.map .started)
  | some as, some bs =>
      some ((dedup (as.flatMap (·.followedBy bs))).map (.cut lengthLimit))

/-- The needles of one thing or another. If there are too many they are
shortened first. -/
def orElse (a b : Needles) : Needles :=
  let shorten := (Option.map fun needles =>
    dedup (needles.map (Needle.cut 4)))
  let (a, b) := if allowsCount a b (· + ·) then (a, b)
    else (shorten a, shorten b)
  match a, b with
  | some as, some bs =>
      if allowsCount a b (· + ·) then some (dedup (as ++ bs)) else none
  | _, _ => none

/-- Needles, followed a number of times by others. -/
def rounds (unit : Needles) : Nat → Needles → Needles
  | 0, needles => needles
  | count + 1, needles =>
      if needles.isSettled then needles
      else rounds unit count (needles.followedBy unit)

/-- The needles of a set. -/
def ofSet (s : CharSet) : Needles :=
  let length := fun ((low, high) : Nat × Nat) =>
    (ofOrdinal high).toNat + 1 - (ofOrdinal low).toNat
  let count := s.ranges.foldl (fun count range => count + length range) 0
  if setLimit < count then none
  else ofTexts (s.ranges.flatMap fun (low, high) =>
    (List.range' low (high + 1 - low)).map fun n => [ofOrdinal n])

/-- The needles of what is repeated, given those of one round. -/
def repeated (least : Nat) (most : Option Nat) (greedy : Bool)
    (round : Needles) : Needles :=
  if least = 0 then
    let some := if most = some 1 then round else round.started
    if greedy then some.orElse blank else orElse blank some
  else
    let needles := rounds round (min least roundLimit) blank
    if most = some least ∧ least ≤ roundLimit then needles
    else needles.started

end Needles

-- ========================================================= expressions

namespace Expression

/-- The needles of the expression. -/
def needles : Expression → Needles
  | empty => .blank
  | literal text => .ofTexts [text]
  | set s _ => .ofSet s
  | look _ => .blank
  | repetition least most greedy inner =>
      .repeated least most greedy inner.needles
  | capture inner => inner.needles
  | sequence parts => ofRow .blank parts
  | choice branches => ofBranches (some []) branches
where
  /-- Needles, followed by those of some parts. -/
  ofRow (before : Needles) : List Expression → Needles
    | [] => before
    | part :: parts =>
        if before.isSettled then before
        else ofRow (before.followedBy part.needles) parts
  /-- Needles, or those of some branches. -/
  ofBranches (before : Needles) : List Expression → Needles
    | [] => before
    | branch :: branches =>
        if before.isNone then none
        else ofBranches (before.orElse branch.needles) branches

end Expression

-- ============================================================ searches

namespace Needles

/-- The needles without those that start with one before them, which is
preferred. -/
def minimal (needles : List Needle) : List Needle :=
  (needles.foldl
    (fun kept next =>
      if kept.any (·.bytes.isPrefixOf next.bytes) then kept
      else next :: kept)
    []).reverse

/-- What two texts start with. -/
def commonStart : List UInt8 → List UInt8 → List UInt8
  | a :: as, b :: bs => if a = b then a :: commonStart as bs else []
  | _, _ => []

/-- What all needles start with. -/
def sharedStart : List Needle → List UInt8
  | [] => []
  | first :: rest =>
      rest.foldl (fun start needle => commonStart start needle.bytes)
        first.bytes

/-- The characters of ASCII that are common in all kinds of texts. -/
def commonChars : List Char :=
  "\n\r (),-./0129:_abcdefghilmnoprstuvxy|".toList

/-- Whether a byte is so rare that it is worth to look for it alone. -/
def isRare (byte : UInt8) : Bool :=
  byte < 0x80 && !commonChars.contains (Char.ofNat byte.toNat)

/-- The needles by their first bytes, shortened further as long as there
are too many. For each length there is a number of needles up to which
they are left as they are. -/
def shrink : List (Nat × Nat) → List Needle → List Needle
  | [], needles => needles
  | (length, count) :: attempts, needles =>
      if needles.length ≤ count then needles
      else shrink attempts (minimal (needles.map (.cut length)))

/-- The lengths to which needles are shortened, each with the number of
needles up to which they are not. -/
def attempts : List (Nat × Nat) :=
  [(5, 10), (4, 10), (3, 64), (2, 64), (1, 10)]

/-- Whether all needles are matches in the form in which they are looked
for. They may be shortened to what is found faster: to a rare byte that
all start with, to a long start that they share, or to short ones if there
are many. -/
def areWhole (needles : List Needle) : Bool :=
  let kept := minimal needles
  let start := sharedStart kept
  let whole := fun (needles : List Needle) => needles.all (·.isWhole)
  let byRareByte := 1 < needles.length ∧ start.length ≤ 3
    ∧ start.head?.any isRare
  let fast := whole kept ∧ kept.length ≤ 16
  let byStart := 4 < start.length ∨ 1 < start.length ∧ ¬ fast
  if byRareByte then whole (kept.map (.cut 1))
  else if byStart then whole (kept.map (.cut start.length))
  else
    let shrunk := shrink attempts kept
    let useful := shrunk.length ≤ 64 ∧ shrunk.all (2 < ·.bytes.length)
    whole kept ∧ (¬ useful ∨ whole shrunk)

end Needles

namespace Expression

/-- How many texts are looked for on their own. -/
def manyTexts : Nat := 3000

/-- Whether the expression is a choice of many texts. -/
def isManyTexts : Expression → Bool
  | choice branches =>
      manyTexts ≤ branches.length && branches.all fun
        | literal _ => true
        | _ => false
  | _ => false

/-- Whether the expression says no more than that one of some texts is to
be found. -/
def isTexts (expression : Expression) : Bool :=
  if expression.hasCapture || expression.anyLook fun _ => true then false
  else
    expression.isManyTexts ||
      match expression.needles with
      | none => false
      | some needles =>
          !needles.isEmpty && needles.all (!·.bytes.isEmpty)
            && Needles.areWhole (Needles.dedup needles)

end Expression

end LinkOrder.Regex
