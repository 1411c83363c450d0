/-! Text for terminals: what is left of it without the sequences that steer a terminal. -/

namespace LineEditor.Text

/-- How the next character is read: as text, behind an escape character, or as a part of one of
the sequences that an escape character begins.
-/
inductive TerminalMode where
  | text
  | escape
  /-- Behind an escape character and a sign for another set of characters. -/
  | charset
  /-- A sequence of numbers that a letter ends. -/
  | control
  /-- A command in words, such as one for the title of the window. -/
  | command
  /-- Data for the device, of which nothing is read. -/
  | payload
  deriving DecidableEq, Repr

namespace TerminalMode

/-- The mode that the character behind an escape character leads to. -/
def ofEscaped (c : Char) : TerminalMode :=
  if c = '[' then control
  else if c = ']' then command
  else if c = 'P' || c = 'X' || c = '^' || c = '_' then payload
  else if ' ' ≤ c && c ≤ '/' then charset
  else if '0' ≤ c && c ≤ '~' then text
  else escape

/-- The character closes a payload: its encoding holds the byte for that. -/
def closesPayload (c : Char) : Bool :=
  c.toNat ≥ 0x80 && (String.singleton c).toUTF8.toList.contains 0x9C

/-- The mode behind a character. An escape character begins a new sequence and two other
characters cancel one in every mode.
-/
def next (mode : TerminalMode) (c : Char) : TerminalMode :=
  if c = '\x18' || c = '\x1a' then text
  else if c = '\x1b' then escape
  else
    match mode with
    | text => text
    | escape => ofEscaped c
    | charset => if '0' ≤ c && c ≤ '~' then text else charset
    | control => if '@' ≤ c && c ≤ '~' then text else control
    | command => if c = '\x07' then text else command
    | payload => if closesPayload c then text else payload

/-- A tab or an end of a line or page. -/
def isLayout (c : Char) : Bool := c = '\t' || c = '\n' || c = '\x0c' || c = '\r'

/-- A character is shown in a mode: in text all but controls, and layout also in sequences that
are not in words.
-/
def shows (mode : TerminalMode) (c : Char) : Bool :=
  match mode with
  | text => isLayout c || (' ' ≤ c && c != '\x7f')
  | escape | charset | control => isLayout c
  | command | payload => false

end TerminalMode

/-- The characters that are shown. Once a character is shown, those behind it are read as text
up to one that is not, which is read in the mode from before.
-/
def shownCharacters : TerminalMode → Bool → List Char → List Char
  | _, _, [] => []
  | mode, running, c :: text =>
      if (if running then .text else mode).shows c then
        c :: shownCharacters (if c.toNat ≥ 0x80 then .text else mode) true text
      else shownCharacters (mode.next c) false text

/-- A text without what steers a terminal. -/
def plain (text : String) : String :=
  String.ofList (shownCharacters .text false text.toList)

end LineEditor.Text
