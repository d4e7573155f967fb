/-
Laying out an order file. Symbols that share a name form a group, which a
linker places together whichever member is named; so the first member to
be reached emits one entry for its group and claims all of it. An entry
of a group of several is written with the emitter's object file, where
that has a form for it. The plan keeps emitters and forms, and the file
and the counts follow.

The table's symbols are given to the layout as an explicit list: in which
order a table gives its symbols is not part of what it means, and the
laws of a plan hold for every order.
-/
import LinkOrder.Config
import LinkOrder.LinkMap.Table
import LinkOrder.Order.File
import Std.Data.HashMap
import Std.Data.HashSet

namespace LinkOrder.Order

-- ============================================================== groups

/-- Symbols by name, those of one name in the order in which they were
given. -/
abbrev Groups := Std.HashMap String (List Symbol)

/-- The groups with one more symbol. -/
def Groups.add (groups : Groups) (symbol : Symbol) : Groups :=
  groups.insert symbol.name (groups.getD symbol.name [] ++ [symbol])

/-- The groups of the symbols that may be ordered. -/
def groupsOf (rule : Eligibility) (symbols : List Symbol) : Groups :=
  (symbols.filter rule.admits).foldl Groups.add ∅

/-- The members of the group of a name. -/
def Groups.members (groups : Groups) (name : String) : List Symbol :=
  groups.getD name []

/-- The groups of several symbols, by name. -/
def collisionGroups (rule : Eligibility) (symbols : List Symbol) :
    List (String × List Symbol) :=
  ((groupsOf rule symbols).toList.filter fun (_, members) =>
    1 < members.length).mergeSort fun a b => a.1 ≤ b.1

-- ============================================================= entries

/-- One entry of an order file: the symbol that emitted it, and the number
of members in its group. -/
structure Entry where
  symbol : Symbol
  members : Nat
deriving DecidableEq, Repr

namespace Entry

/-- Whether the entry speaks for several symbols. -/
def isCollision (entry : Entry) : Bool := 1 < entry.members

/-- Whether the entry is written with an object file. -/
def isQualified (entry : Entry) : Bool :=
  entry.isCollision && entry.symbol.object.qualifier?.isSome

/-- The line of an entry. -/
def line (entry : Entry) : String :=
  if entry.isCollision then entry.symbol.qualifiedName
  else entry.symbol.name

end Entry

-- ============================================================== layout

/-- Emits an entry for a symbol that may be ordered and has not been
claimed, and claims the symbol and its group. -/
def emit (rule : Eligibility) (groups : Groups)
    (claimed : Std.HashSet Symbol) (symbol : Symbol) :
    Option Entry × Std.HashSet Symbol :=
  if !rule.admits symbol || claimed.contains symbol then (none, claimed)
  else
    let members := groups.members symbol.name
    (some ⟨symbol, members.length⟩,
      (claimed.insertMany members).insert symbol)

/-- Emits the entries of a row of symbols. -/
def emitAll (rule : Eligibility) (groups : Groups)
    (claimed : Std.HashSet Symbol) :
    List Symbol → List Entry × Std.HashSet Symbol
  | [] => ([], claimed)
  | symbol :: rest =>
      let (entry, claimed) := emit rule groups claimed symbol
      let (entries, claimed) := emitAll rule groups claimed rest
      (entry.toList ++ entries, claimed)

/-- The entries of an order file. -/
structure Plan where
  observed : List Entry
  remaining : List Entry
deriving DecidableEq, Repr

/-- Lays out an order file. `symbols` are those of the table, in some
order, `tail` the order in which the ones that were not observed are
reached, and `trace` those that were. -/
def plan (rule : Eligibility) (symbols tail trace : List Symbol) : Plan :=
  let groups := groupsOf rule symbols
  let (observed, claimed) := emitAll rule groups ∅ trace
  ⟨observed, (emitAll rule groups claimed tail).1⟩

/-- Lays out an order file from a table whose entries are given in some
order. -/
def planOf (rule : Eligibility) (order : RemainingOrder)
    (entries : List (UInt64 × Symbol)) (trace : List Symbol) : Plan :=
  let tail :=
    match order with
    | .unspecified => entries
    | .address => entries.mergeSort fun a b => a.1 ≤ b.1
  plan rule (entries.map Prod.snd) (tail.map Prod.snd) trace

/-- What a plan amounts to. -/
structure PlanStats where
  observed : Nat
  remaining : Nat
  collisionsPrefixed : Nat
  collisionsUnprefixed : Nat
deriving DecidableEq, Repr

/-- The number of groups of several symbols. -/
def PlanStats.collisions (stats : PlanStats) : Nat :=
  stats.collisionsPrefixed + stats.collisionsUnprefixed

namespace Plan

/-- All entries. -/
def entries (plan : Plan) : List Entry := plan.observed ++ plan.remaining

/-- The order file of a plan. -/
def file (plan : Plan) : OrderFile where
  observed := plan.observed.map Entry.line
  remaining := plan.remaining.map Entry.line

/-- The counts of a plan. -/
def stats (plan : Plan) : PlanStats where
  observed := plan.observed.length
  remaining := plan.remaining.length
  collisionsPrefixed := plan.entries.countP Entry.isQualified
  collisionsUnprefixed :=
    plan.entries.countP fun e => e.isCollision && !e.isQualified

-- ============================================================= records

/-- What is said about an entry. -/
def entryRecords (entry : Entry) : List Log.Record :=
  if entry.isCollision && !entry.isQualified then
    [⟨.debug, .generator, entry.symbol.name ++ " collides across "
      ++ toString entry.members ++ " objects but "
      ++ entry.symbol.object.display ++ " has no .o form"⟩]
  else []

/-- What a plan says. -/
def records (plan : Plan) : List Log.Record :=
  let stats := plan.stats
  plan.entries.flatMap entryRecords
    ++ [⟨.info, .generator, "Generated order file: "
      ++ toString stats.observed ++ " observed, "
      ++ toString stats.remaining ++ " remaining, "
      ++ toString stats.collisions ++ " collision groups"⟩]

end Plan

end LinkOrder.Order

namespace LinkOrder

/-- Lays out the order file of a table. -/
def Table.plan (table : Table) (rule : Eligibility)
    (order : RemainingOrder) (trace : List Symbol) : Order.Plan :=
  Order.planOf rule order table.toList trace

end LinkOrder
