/-
Patterns: from the text of a pattern to the expression that is looked for.
What is wrong with a pattern is a fault in a part of it, or lies in the
whole: it is too large, or it asks for words of Unicode, which are not
known.
-/
import LinkOrder.Regex.Draft
import LinkOrder.Regex.Machine
import LinkOrder.Regex.Meaning
import LinkOrder.Regex.Needle
import LinkOrder.Regex.Nesting

namespace LinkOrder.Regex

/-- Why a pattern is refused. -/
inductive Refusal where
  | fault (fault : Fault)
  | tooLarge
  | wordsUnknown
deriving DecidableEq, Repr

/-- The wording of a refusal of a pattern. -/
def Refusal.message (pattern : List Char) : Refusal → String
  | fault f => f.report pattern
  | tooLarge =>
      "Compiled regex exceeds size limit of " ++ toString sizeLimit
        ++ " bytes."
  | wordsUnknown => "error building NFA"

/-- Whether a look asks for words of Unicode. -/
def Look.needsWords : Look → Bool
  | word _ unicode => unicode
  | _ => false

/-- What a pattern means as a whole, or the first fault in it. -/
def Tree.expression (pattern : List Char) : Except Fault Expression := do
  let tree ← Tree.ofPattern pattern
  tree.acceptWithin 0
  let (meaning, _) ← tree.meaning.run {}
  return meaning

/-- Why no machine finds the expression, if none does. The machine that
reads forward comes first. -/
def Expression.refusal? (expression : Expression) : Option Refusal :=
  if !expression.fits .forward then some .tooLarge
  else if expression.anyLook Look.needsWords then some .wordsUnknown
  else if !expression.fits .backward then some .tooLarge
  else none

/-- The expression of a pattern, or why the pattern is refused. Where no
more than some texts is looked for no machine is needed. -/
def Expression.ofPattern (pattern : List Char) :
    Except Refusal Expression :=
  match Tree.expression pattern with
  | .error fault => .error (.fault fault)
  | .ok expression =>
      match expression.refusal? with
      | none => .ok expression
      | some refusal =>
          if expression.isTexts then .ok expression else .error refusal

end LinkOrder.Regex
