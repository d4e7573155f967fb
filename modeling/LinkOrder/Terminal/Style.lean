/-
Styled text on a terminal: a style is switched on before a text and
everything is switched off behind it. Where the text itself switches
everything off, the style is switched on again.
-/

namespace LinkOrder.Terminal

/-- The colours in use. -/
inductive Colour where
  | red
  | green
  | yellow
  | blue
  | magenta
  | cyan
deriving DecidableEq, Repr

/-- The code that switches a colour on. -/
def Colour.code : Colour → String
  | red => "31"
  | green => "32"
  | yellow => "33"
  | blue => "34"
  | magenta => "35"
  | cyan => "36"

/-- How a text looks. -/
inductive Style where
  | plain (colour : Colour)
  | bold (colour : Colour)
  | dimmed
deriving DecidableEq, Repr

/-- The codes that switch a style on. -/
def Style.codes : Style → String
  | plain colour => colour.code
  | bold colour => "1;" ++ colour.code
  | dimmed => "2"

/-- What switches the given codes on. -/
def switchOn (codes : String) : String := "\x1b[" ++ codes ++ "m"

/-- What switches everything off. -/
def switchOff : String := "\x1b[0m"

/-- The text with `more` behind every place where everything is switched
off. -/
def afterSwitchOff (more : List Char) : List Char → List Char
  | '\x1b' :: '[' :: '0' :: 'm' :: rest =>
      '\x1b' :: '[' :: '0' :: 'm' :: (more ++ afterSwitchOff more rest)
  | c :: rest => c :: afterSwitchOff more rest
  | [] => []

/-- The text in a style, where styles are in use at all. -/
def Style.paint (style : Style) (inUse : Bool) (text : String) : String :=
  if inUse then
    let on := switchOn style.codes
    on ++ String.ofList (afterSwitchOff on.toList text.toList) ++ switchOff
  else text

end LinkOrder.Terminal
