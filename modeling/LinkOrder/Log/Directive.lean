/-
Directives: which records are shown, as the environment may ask for it. A
text of directives is a row, between commas, of levels, of targets, and
of targets with a level; a final part behind a slash asks for records
that contain a text. For a record the directive with the longest target
that its own starts with decides. Without any directive errors alone are
shown.
-/
import LinkOrder.Log.Record
import LinkOrder.Regex.Match
import LinkOrder.Regex.Pattern
import LinkOrder.Text.Blank
import LinkOrder.Text.Cut

namespace LinkOrder.Log

open Regex (Expression)

/-- The threshold for records whose targets start in a certain way, or
for all records. -/
structure Directive where
  target : Option (List Char)
  threshold : Threshold
deriving DecidableEq, Repr

/-- What the environment asks for. -/
structure Directives where
  /-- The directives, the shortest target first. -/
  rules : List Directive
  /-- What must occur in a message. -/
  filter : Option Expression
deriving Repr

/-- The level that a directive names, in any case. -/
def directiveLevel? (text : List Char) : Option Threshold :=
  match String.ofList (text.map Char.toUpper) with
  | "OFF" => some .off
  | "ERROR" => some (.upTo .error)
  | "WARN" => some (.upTo .warn)
  | "INFO" => some (.upTo .info)
  | "DEBUG" => some (.upTo .debug)
  | "TRACE" => some (.upTo .trace)
  | _ => none

/-- One directive between commas, or the part of it that is not
understood. -/
def Directive.parse (text : List Char) : Except (List Char) Directive :=
  match Text.pieces '=' text with
  | [single] =>
      match directiveLevel? single with
      | some threshold => .ok ⟨none, threshold⟩
      | none => .ok ⟨some single, .upTo .trace⟩
  | [target, level] =>
      let level := Text.trim level
      if level = [] then .ok ⟨some target, .upTo .trace⟩
      else
        match directiveLevel? level with
        | some threshold => .ok ⟨some target, threshold⟩
        | none => .error level
  | _ => .error text

/-- The complaint about a part of the text that is not understood, with
more to say of it. -/
def specComplaint (part : List Char) (more : String) : String :=
  "warning: invalid logging spec '" ++ String.ofList part ++ "'" ++ more
    ++ ", ignoring it"

/-- The directives with one more, in place of one for the same target. -/
def addDirective (rules : List Directive) (rule : Directive) :
    List Directive :=
  if rules.any (·.target = rule.target) then
    rules.map fun other => if other.target = rule.target then rule else other
  else rules ++ [rule]

/-- The directives in the order in which they are tried backwards. -/
def arrange (rules : List Directive) : List Directive :=
  match rules with
  | [] => [⟨none, .upTo .error⟩]
  | rules =>
      rules.mergeSort fun a b =>
        (a.target.getD []).length ≤ (b.target.getD []).length

/-- The directives between commas, and the complaints about what is not
understood. -/
def parseRules (text : List Char) : List Directive × List String :=
  let parsed :=
    (((Text.pieces ',' text).map Text.trim).filter (· ≠ [])).map
      Directive.parse
  let good := parsed.filterMap fun
    | .ok rule => some rule
    | .error _ => none
  let complaints := parsed.filterMap fun
    | .ok _ => none
    | .error part => some (specComplaint part "")
  (arrange (good.foldl addDirective []), complaints)

/-- The filter that a pattern makes, if it is a good one, and else a
complaint about it. -/
def parseFilter (pattern : List Char) :
    Option Expression × List String :=
  match Expression.ofPattern pattern with
  | .ok expression => (some expression, [])
  | .error refusal =>
      (none,
        ["warning: invalid regex filter - " ++ refusal.message pattern
          ++ ", ignoring it"])

/-- The directives that a text holds, and the complaints about what is not
understood. -/
def Directives.parse (text : String) : Directives × List String :=
  match Text.pieces '/' text.toList with
  | [rules] =>
      let (rules, complaints) := parseRules rules
      (⟨rules, none⟩, complaints)
  | [rules, pattern] =>
      let (rules, complaints) := parseRules rules
      let (filter, more) := parseFilter pattern
      (⟨rules, filter⟩, complaints ++ more)
  | _ =>
      (⟨arrange [], none⟩, [specComplaint text.toList " (too many '/'s)"])

/-- Whether the record is shown. -/
def Directives.admit (directives : Directives) (record : Record) : Bool :=
  let target := record.source.target.toList
  let rule? := directives.rules.reverse.find? fun rule =>
    (rule.target.getD []).isPrefixOf target
  let admitted :=
    match rule? with
    | some rule => rule.threshold.admits record.level
    | none => false
  let found :=
    directives.filter.all (·.occursIn record.message.toList)
  admitted && found

end LinkOrder.Log
