/-
What a pattern means: an expression over texts, sets of characters and
looks. A look takes no character; it asks what stands on the two sides of
a place.
-/
import LinkOrder.Regex.CharSet

namespace LinkOrder.Regex

/-- What the edge of a word is asked for. A half looks at one side of the
place alone. -/
inductive WordEdge where
  | either
  | neither
  | start
  | stop
  | startHalf
  | stopHalf
deriving DecidableEq, Repr, Inhabited

/-- What a look asks for at a place. -/
inductive Look where
  | textStart
  | textStop
  | lineStart
  | lineStop
  /-- The start of a line, where lines also end in carriage returns. -/
  | returnStart
  /-- The end of a line, where lines also end in carriage returns. -/
  | returnStop
  /-- The edge of a word, made of the letters of ASCII or of Unicode. -/
  | word (edge : WordEdge) (unicode : Bool)
deriving DecidableEq, Repr, Inhabited

/-- What a pattern means. -/
inductive Expression where
  | empty
  /-- Some characters, one behind the other. -/
  | literal (text : List Char)
  /-- One character of a set, which may be meant as a set of bytes. -/
  | set (set : CharSet) (bytes : Bool)
  | look (look : Look)
  /-- An expression again and again, as often as the bounds say, and
  rather more often if it is greedy. -/
  | repetition (least : Nat) (most : Option Nat) (greedy : Bool)
      (inner : Expression)
  | capture (inner : Expression)
  | sequence (parts : List Expression)
  | choice (branches : List Expression)
deriving Repr, Inhabited

namespace Expression

/-- Whether the expression never takes a character. -/
def isWidthless : Expression → Bool
  | empty => true
  | literal _ => false
  | set _ _ => false
  | look _ => true
  | repetition _ most _ inner => most.isSome && inner.isWidthless
  | capture inner => inner.isWidthless
  | sequence parts => allWidthless parts
  | choice branches => allWidthless branches
where
  /-- Whether none of some expressions ever takes a character. -/
  allWidthless : List Expression → Bool
    | [] => true
    | first :: rest => first.isWidthless && allWidthless rest

/-- How many bytes a match takes at least, unless there is a set in the
way that holds nothing. -/
def shortest : Expression → Option Nat
  | empty => some 0
  | literal text => some (text.foldl (· + ·.utf8Size) 0)
  | set s _ => s.changes.head?.map encodedLength
  | look _ => some 0
  | repetition least _ _ inner => inner.shortest.map (least * ·)
  | capture inner => inner.shortest
  | sequence parts => total parts
  | choice branches => least branches
where
  /-- How many bytes some expressions one after the other take. -/
  total : List Expression → Option Nat
    | [] => some 0
    | first :: rest => do return (← first.shortest) + (← total rest)
  /-- How many bytes one of some expressions takes. -/
  least : List Expression → Option Nat
    | [] => none
    | [last] => last.shortest
    | first :: rest => do return min (← first.shortest) (← least rest)

/-- Whether each match takes something. -/
def alwaysTakes (expression : Expression) : Bool :=
  expression.shortest.any (0 < ·)

/-- Whether a look occurs for which a test holds. -/
def anyLook (test : Look → Bool) : Expression → Bool
  | empty => false
  | literal _ => false
  | set _ _ => false
  | look l => test l
  | repetition _ _ _ inner => inner.anyLook test
  | capture inner => inner.anyLook test
  | sequence parts => anyOf parts
  | choice branches => anyOf branches
where
  /-- Whether such a look occurs in one of some expressions. -/
  anyOf : List Expression → Bool
    | [] => false
    | first :: rest => first.anyLook test || anyOf rest

/-- Whether a part of what matches is kept. -/
def hasCapture : Expression → Bool
  | empty => false
  | literal _ => false
  | set _ _ => false
  | look _ => false
  | repetition _ _ _ inner => inner.hasCapture
  | capture _ => true
  | sequence parts => anyCapture parts
  | choice branches => anyCapture branches
where
  /-- Whether a part is kept in one of some expressions. -/
  anyCapture : List Expression → Bool
    | [] => false
    | first :: rest => first.hasCapture || anyCapture rest

end Expression

end LinkOrder.Regex
