import LineEditor.Unicode.Property

/-! Quoting for messages: text between quotes in which every character can be told by its look. -/

namespace LineEditor.Text

open Unicode (CharSet PropertyRanges.laterVisible categorySet defaultIgnorable graphemeExtend
  tableSet)

/-- Characters that cannot be told by their look: controls, blanks other than the space, code
points without a character of their own, marks that never stand alone unless they are letters,
and characters that show nothing. The newest characters of the standard that can be seen are
not among them.
-/
def unseen : CharSet :=
  let marks := graphemeExtend.diff (categorySet ["Lm"])
  let blanks := (categorySet ["Zs"]).diff (.singleton ' ')
  (CharSet.unions
    [categorySet ["Cc", "Cf", "Cs", "Co", "Cn", "Zl", "Zp"], blanks, marks,
      defaultIgnorable]).diff (tableSet PropertyRanges.laterVisible)

/-- The character is shown as it is; in ASCII this is told without the tables. -/
def isSeen (c : Char) : Bool :=
  if c.toNat < 0x7F then c.toNat ≥ 0x20 else !unseen.contains c

/-- The form of a character between quotes. -/
def quotedChar (c : Char) : List Char :=
  if c = '\x00' then ['\\', '0']
  else if c = '\t' then ['\\', 't']
  else if c = '\r' then ['\\', 'r']
  else if c = '\n' then ['\\', 'n']
  else if c = '\\' || c = '"' then ['\\', c]
  else if isSeen c then [c]
  else "\\u\x7b".toList ++ Nat.toDigits 16 c.toNat ++ ['\x7d']

/-- A text between quotes. -/
def quoted (text : String) : String :=
  String.ofList ('"' :: text.toList.flatMap quotedChar ++ ['"'])

end LineEditor.Text
