import PackageMarket.Text.Basic
import PackageMarket.Text.Width

set_option autoImplicit false

/-!
A text under a cursor. The cursor is a number of bytes, and every operation keeps it between two
characters. Fields of one line hold no line break.
-/

namespace PackageMarket

open Text

structure TextField where
  name : String
  label : String
  text : List Char
  cursor : Nat
  multiline : Bool
  deriving DecidableEq, Repr

namespace TextField

def line (name label : String) : TextField := ⟨name, label, [], 0, false⟩

def page (name label : String) (text : List Char) : TextField := ⟨name, label, text, 0, true⟩

variable (f : TextField)

def before : List Char := take f.cursor f.text

def after : List Char := drop f.cursor f.text

def slice (start stop : Nat) : List Char := take (stop - start) (drop start f.text)

def setText (text : List Char) : TextField := { f with text, cursor := size text }

def cut (start stop : Nat) : TextField :=
  { f with text := take start f.text ++ drop stop f.text, cursor := start }

/-- A line break does not go into a field of one line. -/
def insertChar (c : Char) : TextField :=
  if c = '\n' && !f.multiline then f
  else { f with text := f.before ++ c :: f.after, cursor := f.cursor + c.utf8Size }

def joinBreaks : List Char → List Char
  | '\r' :: '\n' :: s => '\n' :: joinBreaks s
  | c :: s => c :: joinBreaks s
  | [] => []

def normalize (s : List Char) : List Char :=
  (joinBreaks s).map fun c => if c = '\r' then '\n' else c

def insertText (s : List Char) : TextField :=
  let s := if f.multiline then normalize s else (normalize s).filter (· != '\n')
  { f with text := f.before ++ s ++ f.after, cursor := f.cursor + size s }

def leftOfCursor : Nat := size f.before.dropLast

def rightOfCursor : Nat := f.cursor + size (f.after.take 1)

def deleteBack : TextField := if 0 < f.cursor then f.cut f.leftOfCursor f.cursor else f

def deleteForward : TextField :=
  if f.cursor < size f.text then f.cut f.cursor f.rightOfCursor else f

def moveLeft : TextField := if 0 < f.cursor then { f with cursor := f.leftOfCursor } else f

def moveRight : TextField :=
  if f.cursor < size f.text then { f with cursor := f.rightOfCursor } else f

def lastLine (s : List Char) : List Char := (s.reverse.takeWhile (· != '\n')).reverse

def firstLine (s : List Char) : List Char := s.takeWhile (· != '\n')

def lineStart : Nat := f.cursor - size (lastLine f.before)

def lineEnd : Nat := f.cursor + size (firstLine f.after)

def moveHome : TextField := { f with cursor := f.lineStart }

def moveEnd : TextField := { f with cursor := f.lineEnd }

def column : Nat := (f.slice f.lineStart f.cursor).length

/-- The position `column` characters into the line that lies between two positions, or its end. -/
def inLine (start stop column : Nat) : Nat := start + size ((f.slice start stop).take column)

def moveUp : TextField :=
  if f.lineStart = 0 then f
  else
    let stop := f.lineStart - 1
    let start := stop - size (lastLine (take stop f.text))
    { f with cursor := f.inLine start stop f.column }

def moveDown : TextField :=
  if f.lineEnd = size f.text then f
  else
    let start := f.lineEnd + 1
    let stop := start + size (firstLine (drop start f.text))
    { f with cursor := f.inLine start stop f.column }

/-- Where deletion of a word begins: before the spaces at the cursor and the characters before them
that are neither spaces nor line breaks. -/
def wordStart : Nat :=
  let s := f.before.reverse
  let t := s.dropWhile (· = ' ')
  size (t.dropWhile fun c => c != ' ' && c != '\n')

def deleteWordBack : TextField := if f.cursor = 0 then f else f.cut f.wordStart f.cursor

def cursorPosition : Nat × Nat :=
  (f.before.count '\n', width (f.slice f.lineStart f.cursor))

end TextField
end PackageMarket
