import ServiceLease.Text.Hex
import ServiceLease.Text.Printable

/-! A text between quotes, as error messages show it: on one line, in printable
characters. Apostrophes enclose it unless it holds one and no double quote. -/
namespace ServiceLease.Text

def apostrophe : Char := '\x27'

def quoteMark (s : List Char) : Char :=
  if s.contains apostrophe && !s.contains '"' then '"' else apostrophe

/-- A character between quotes. What is not printable is written by its code point, in
the shortest of three widths. -/
def quotedChar (mark c : Char) : List Char :=
  if c == mark || c == '\\' then ['\\', c]
  else if c == '\t' then ['\\', 't']
  else if c == '\n' then ['\\', 'n']
  else if c == '\r' then ['\\', 'r']
  else if isPrintable c then [c]
  else if c.toNat < 0x100 then '\\' :: 'x' :: hex 2 c.toNat
  else if c.toNat < 0x10000 then '\\' :: 'u' :: hex 4 c.toNat
  else '\\' :: 'U' :: hex 8 c.toNat

def quoted (s : List Char) : List Char :=
  let mark := quoteMark s
  mark :: s.flatMap (quotedChar mark) ++ [mark]

end ServiceLease.Text
