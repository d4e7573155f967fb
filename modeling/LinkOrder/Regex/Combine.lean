/-
Combinations of expressions in simple terms. What says nothing is left
out, rows within rows are one row, and so are choices within choices; what
all branches of a choice start with stands in front of it. Which texts
match is not changed by that, but how much room a pattern takes is, and a
pattern that takes too much is refused.
-/
import LinkOrder.Regex.Match

namespace LinkOrder.Regex.Expression

/-- One character of a set, in simple terms. -/
def ofSet (s : CharSet) (bytes : Bool) : Expression :=
  match s.ranges with
  | [] => set .empty true
  | [(low, high)] =>
      if low = high then literal [ofOrdinal low] else set s bytes
  | _ => set s bytes

/-- What nothing matches. -/
def nothing : Expression := ofSet .empty true

/-- A repetition in simple terms. To repeat what takes no character says no
more than to have it once. -/
def repeated (least : Nat) (most : Option Nat) (greedy : Bool)
    (inner : Expression) : Expression :=
  let (least, most) :=
    if inner.isWidthless then (min least 1, some (min (most.getD 1) 1))
    else (least, most)
  if least = 0 ∧ most = some 0 then empty
  else if least = 1 ∧ most = some 1 then inner
  else repetition least most greedy inner

-- ================================================================ rows

/-- The parts of an expression that stand one after the other. -/
def parts : Expression → List Expression
  | empty => []
  | sequence parts => parts
  | other => [other]

/-- A part in front of others. Texts that meet are one. -/
def joinPart (part : Expression) (parts : List Expression) :
    List Expression :=
  match part, parts with
  | literal a, literal b :: parts => literal (a ++ b) :: parts
  | part, parts => part :: parts

/-- Expressions one after the other. -/
def sequenceOf (row : List Expression) : Expression :=
  match (row.flatMap parts).foldr joinPart [] with
  | [] => empty
  | [only] => only
  | parts => sequence parts

-- ============================================================= choices

/-- Whether two expressions say the same in the same way. What they keep
for later is never the same. -/
def alike : Expression → Expression → Bool
  | empty, empty => true
  | literal a, literal b => a = b
  | set a bytes, set b bytes' => a = b && bytes = bytes'
  | look a, look b => a = b
  | repetition least most greedy a, repetition least' most' greedy' b =>
      least = least' && most = most' && greedy = greedy' && a.alike b
  | sequence as, sequence bs => allAlike as bs
  | choice as, choice bs => allAlike as bs
  | _, _ => false
where
  /-- Whether expressions are alike one by one. -/
  allAlike : List Expression → List Expression → Bool
    | [], [] => true
    | a :: as, b :: bs => a.alike b && allAlike as bs
    | _, _ => false

/-- What two rows start with alike. -/
def shared : List Expression → List Expression → List Expression
  | a :: as, b :: bs => if a.alike b then a :: shared as bs else []
  | _, _ => []

/-- The parts of a row of several; there are none otherwise. -/
def rowParts : Expression → List Expression
  | sequence parts => parts
  | _ => []

/-- What all branches start with alike, if each of them is a row. -/
def sharedParts : List Expression → List Expression
  | [] => []
  | first :: rest =>
      rest.foldl (fun front branch => shared front branch.rowParts)
        first.rowParts

/-- The branches of an expression. -/
def branches : Expression → List Expression
  | choice branches => branches
  | other => [other]

/-- The set of one character, if the expression is no more than that. -/
def singleChar? : Expression → Option CharSet
  | literal [c] => some (.single c)
  | _ => none

/-- The set that the expression is, if it is one. -/
def charSet? : Expression → Option CharSet
  | set s _ => some s
  | _ => none

/-- One set for all branches, if they are single characters or if they are
sets. -/
def oneSet? (branches : List Expression) : Option CharSet :=
  let union := (·.foldr CharSet.union .empty)
  (branches.mapM singleChar?).map union
    <|> (branches.mapM charSet?).map union

/-- One expression or another, without a look at what they start with. -/
def anyOf (row : List Expression) : Expression :=
  match row.flatMap branches with
  | [] => nothing
  | [only] => only
  | all =>
      match oneSet? all with
      | some s => ofSet s false
      | none => choice all

/-- One expression or another. -/
def choiceOf (row : List Expression) : Expression :=
  match anyOf row with
  | choice all =>
      match sharedParts all with
      | [] => choice all
      | front =>
          let rest := all.map fun branch =>
            sequenceOf (branch.rowParts.drop front.length)
          sequenceOf (front ++ [anyOf rest])
  | other => other

end LinkOrder.Regex.Expression
