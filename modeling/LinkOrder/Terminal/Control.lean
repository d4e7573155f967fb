/-
Text without what steers a terminal. A terminal takes an escape character
and what follows it as a command, which may be a short sequence, a row of
parameters, or a string of data or a title up to its terminator; other
control characters act by themselves. Of all these only white space is
text. Within a command that is not a string it starts a run of text, up to
the next control character, behind which the command goes on.
-/
import LinkOrder.Text.Utf8

namespace LinkOrder.Terminal

/-- Where a reader of terminal text stands. -/
inductive Control where
  /-- In the text. -/
  | text
  /-- Behind an escape character. -/
  | escape
  /-- Behind an escape character and intermediate marks. -/
  | marks
  /-- In a command with parameters. -/
  | command
  /-- At the start of a command that carries data. -/
  | data
  /-- In the parameters of a command that carries data. -/
  | dataParameters
  /-- Behind the intermediate marks of a command that carries data. -/
  | dataMarks
  /-- In a string that its terminator alone ends. -/
  | string
  /-- In a title, which a bell ends as well. -/
  | title
deriving DecidableEq, Repr

/-- The control characters that are white space. -/
def isBlankControl (c : Char) : Bool :=
  c = '\t' || c = '\n' || c = '\x0c' || c = '\r'

/-- Whether the character is a control character of ASCII. -/
def isControl (c : Char) : Bool := c < ' ' || c = '\x7f'

/-- Whether the byte that terminates strings is part of the character as
it is encoded. -/
def holdsTerminator (c : Char) : Bool := (Utf8.encode [c]).contains 0x9c

/-- Where the reader stands behind a character from the space to the tilde
that is not text. -/
def Control.follow (state : Control) (c : Char) : Control :=
  match state with
  | text => text
  | escape =>
      if c ≤ '/' then marks
      else if c = '[' then command
      else if c = ']' then title
      else if c = 'P' then data
      else if c = 'X' || c = '^' || c = '_' then string
      else text
  | marks => if c ≤ '/' then marks else text
  | command => if c ≤ '?' then command else text
  | data =>
      if c ≤ '/' then dataMarks
      else if c ≤ '?' then dataParameters
      else string
  | dataParameters =>
      if c ≤ '/' then dataMarks
      else if c ≤ ';' then dataParameters
      else string
  | dataMarks => if c ≤ '/' then dataMarks else string
  | string => string
  | title => title

/-- Where the reader stands behind a control character that is not white
space, and behind one that is within a string. -/
def Control.afterControl (state : Control) (c : Char) : Control :=
  if c = '\x18' || c = '\x1a' then text
  else if c = '\x1b' then escape
  else if state = title && c = '\x07' then text
  else state

/-- Whether white space counts as text where the reader stands. -/
def Control.showsBlanks : Control → Bool
  | text | escape | marks | command => true
  | data | dataParameters | dataMarks | string | title => false

/-- Where a reader stands, and whether it is within a run of text, be it in
the midst of a command. -/
structure Reader where
  state : Control := .text
  inText : Bool := false
deriving DecidableEq, Repr

namespace Reader

/-- The reader behind a character within a run of text, and whether that
is part of the text. A character beyond ASCII ends the command that the
run interrupts. -/
def stepInText (reader : Reader) (c : Char) : Reader × Bool :=
  if isControl c && !isBlankControl c then
    (⟨reader.state.afterControl c, false⟩, false)
  else (⟨if c ≤ '~' then reader.state else .text, true⟩, true)

/-- The reader behind a character that is not within a run of text, and
whether that is part of the text. -/
def stepOutside (reader : Reader) (c : Char) : Reader × Bool :=
  let state := reader.state
  if isBlankControl c && state.showsBlanks then (⟨state, true⟩, true)
  else if isControl c then (⟨state.afterControl c, false⟩, false)
  else if state = .text then (⟨.text, true⟩, true)
  else if c ≤ '~' then (⟨state.follow c, false⟩, false)
  else if state = .string && holdsTerminator c then (⟨.text, false⟩, false)
  else (reader, false)

/-- The reader behind a character, and whether that is part of the
text. -/
def step (reader : Reader) (c : Char) : Reader × Bool :=
  if reader.inText then reader.stepInText c else reader.stepOutside c

/-- The characters that are text, for a reader that stands somewhere. -/
def shown : Reader → List Char → List Char
  | _, [] => []
  | reader, c :: rest =>
      let (next, isText) := reader.step c
      if isText then c :: shown next rest else shown next rest

end Reader

/-- A text without what steers a terminal. -/
def withoutControls (text : String) : String :=
  String.ofList (Reader.shown {} text.toList)

end LinkOrder.Terminal
