import PackageMarket.Screen.Canvas
import PackageMarket.Text.Basic
import PackageMarket.Text.Cluster
import PackageMarket.Text.Width

set_option autoImplicit false

/-!
Text in an area, either cut where the lines end or wrapped between words. A word longer than a row
is cut, and the blanks that stand at a break are dropped as far as they would have fitted.
-/

namespace PackageMarket.Screen

open Text

structure Span where
  text : List Char
  style : Style
  deriving DecidableEq, Repr

def span (text : String) (style : Style) : Span := ⟨text.toList, style⟩

abbrev Line := List Span

/-- A cluster with its style. Widths are words of 16 bits. -/
structure Glyph where
  symbol : List Char
  width : Nat
  style : Style
  deriving DecidableEq, Repr

def Span.glyphs (s : Span) : List Glyph :=
  ((clusters s.text).filter (· ≠ ['\n'])).map fun g => ⟨g, width g % 65536, s.style⟩

def Span.width (s : Span) : Nat := Text.width s.text

namespace Line

def glyphs (l : Line) : List Glyph := l.flatMap Span.glyphs

def width (l : Line) : Nat := l.foldr (fun s n => s.width + n) 0

def ofText (s : List Char) : Line := (lines s).map fun l => ⟨l, .plain⟩

end Line

/-- Draws glyphs from column `x` of a row on, up to the column `right`. What has no width joins the
cell before it, or the first cell of the span, which begins at `start`. -/
def drawGlyphs (start y right : Nat) : (x : Nat) → (first : Bool) → List Glyph → Canvas → Canvas
  | _, _, [], c => c
  | x, first, g :: gs, c =>
    let next := x + g.width
    if right < next then c
    else
      let c :=
        if first then c.edit x y (Cell.put g.symbol g.style)
        else if x = start then c.edit x y (Cell.append g.symbol g.style)
        else if g.width = 0 then c.edit (x - 1) y (Cell.append g.symbol g.style)
        else c.edit x y (Cell.put g.symbol g.style)
      drawGlyphs start y right next false gs (c.editRow y (x + 1) next fun _ => .blank)

def Span.draw (s : Span) (a : Area) (c : Canvas) : Canvas :=
  let a := c.clip a
  if a.isEmpty then c
  else drawGlyphs a.x.toNat a.y.toNat a.right.toNat a.x.toNat true s.glyphs c

def keepEnd (columns : Nat) (s : List Char) : List Char × Nat :=
  let kept := go [] 0 (clusters s).reverse
  (kept.1.flatten, kept.2)
where
  go (kept : List (List Char)) (n : Nat) : List (List Char) → List (List Char) × Nat
    | [] => (kept, n)
    | g :: gs =>
      if n + Text.width g ≤ columns then go (g :: kept) (n + Text.width g) gs else (kept, n)

namespace Line

/-- The spans behind so many columns, each with its width and the columns left free before it. Spans
without width are left out. -/
def behind : (skip : Nat) → Line → List (Span × Nat × Nat)
  | _, [] => []
  | skip, s :: l =>
    let w := s.width
    if w ≤ skip then behind (skip - w) l
    else if skip = 0 then (s, w, 0) :: behind 0 l
    else
      let (text, kept) := keepEnd (w - skip) s.text
      ({ s with text }, kept, w - skip - kept) :: behind 0 l

def drawSpans : List (Span × Nat × Nat) → Area → Canvas → Canvas
  | [], _, c => c
  | (s, w, offset) :: l, a, c =>
    let a := a.indent offset
    if a.isEmpty then c else drawSpans l (a.indent w) (s.draw a c)

def draw (l : Line) (a : Area) (c : Canvas) : Canvas :=
  let a := c.clip a
  if a.isEmpty || l.width = 0 then c else drawSpans (behind 0 l) { a with height := 1 } c

def drawRight (l : Line) (a : Area) (c : Canvas) : Canvas :=
  let a := c.clip a
  if a.isEmpty || l.width = 0 then c
  else
    let a := { a with height := 1 }
    let room := a.width.toNat
    if l.width ≤ room then drawSpans (behind 0 l) (a.indent (room - l.width)) c
    else drawSpans (behind (l.width - room) l) a c

end Line

abbrev Row := List Glyph

def Glyph.isBlank (g : Glyph) : Bool :=
  g.symbol = ['\u200b'] || (g.symbol.all Text.isBlank && g.symbol ≠ ['\u00a0'])

/-- Wrapping in progress: rows done, the row begun, and the blanks and the word behind it. Rows,
blanks and words are held in reverse, but the blanks, which are dropped from their beginning. -/
structure Wrapping where
  done : List Row
  row : Row
  rowWidth : Nat
  blanks : Row
  blanksWidth : Nat
  word : Row
  wordWidth : Nat
  inWord : Bool

namespace Wrapping

def start : Wrapping := ⟨[], [], 0, [], 0, [], 0, false⟩

def settle (w : Wrapping) : Wrapping :=
  { w with
    row := w.word ++ w.blanks.reverse ++ w.row
    rowWidth := w.rowWidth + w.blanksWidth + w.wordWidth
    blanks := [], blanksWidth := 0, word := [], wordWidth := 0 }

def dropBlanks (room : Nat) : Row → Nat → Row × Nat
  | [], n => ([], n)
  | g :: gs, n =>
    if room < g.width then (g :: gs, n) else dropBlanks (room - g.width) gs (n - g.width)

/-- The row is done; blanks that would have fitted into it are dropped. -/
def endRow (max : Nat) (w : Wrapping) : Wrapping :=
  let (blanks, blanksWidth) := dropBlanks (max - w.rowWidth) w.blanks w.blanksWidth
  { w with done := w.row.reverse :: w.done, row := [], rowWidth := 0, blanks, blanksWidth }

def hold (w : Wrapping) (g : Glyph) : Wrapping :=
  if g.isBlank then
    { w with blanks := w.blanks ++ [g], blanksWidth := w.blanksWidth + g.width, inWord := false }
  else { w with word := g :: w.word, wordWidth := w.wordWidth + g.width, inWord := true }

def push (max : Nat) (w : Wrapping) (g : Glyph) : Wrapping :=
  if max < g.width then w
  else
    let w :=
      if (w.inWord && g.isBlank) ||
          (w.row.isEmpty && max < w.wordWidth + w.blanksWidth + g.width) then
        w.settle
      else w
    if max ≤ w.rowWidth || (0 < g.width && max ≤ w.rowWidth + w.blanksWidth + w.wordWidth) then
      let w := w.endRow max
      if g.isBlank && w.blanks.isEmpty then w else w.hold g
    else w.hold g

def finish (w : Wrapping) : List Row :=
  let alone := w.row.isEmpty && w.word.isEmpty && !w.blanks.isEmpty
  let done := if alone then [] :: w.done else w.done
  let w := w.settle
  let done := if w.row.isEmpty then done else w.row.reverse :: done
  if done.isEmpty then [[]] else done.reverse

end Wrapping

def wrap (max : Nat) (l : Line) : List Row := (l.glyphs.foldl (Wrapping.push max) .start).finish

/-- The row that `max` columns show of a line behind `offset` columns: clusters are cut whole. -/
def truncate (max offset : Nat) (l : Line) : Row :=
  go 0 offset l.glyphs
where
  go (used offset : Nat) : List Glyph → Row
    | [] => []
    | g :: gs =>
      if max < g.width then go used offset gs
      else if max < used + g.width then []
      else if offset = 0 then g :: go (used + g.width) 0 gs
      else if offset < g.width then g :: go (used + g.width) 0 gs
      else go used (offset - g.width) gs

def Row.draw (y : Nat) : (x : Nat) → Row → Canvas → Canvas
  | _, [], c => c
  | x, g :: gs, c =>
    if g.width = 0 then Row.draw y x gs c
    else Row.draw y (x + g.width) gs (c.edit x y (Cell.put g.symbol g.style))

def drawRows (rows : List Row) (skip : Nat) (a : Area) (c : Canvas) : Canvas :=
  if a.isEmpty then c
  else
    (((rows.drop skip).take a.height.toNat).foldl
      (fun (y, c) r => (y + 1, Row.draw y a.x.toNat r c)) (a.y.toNat, c)).2

def drawWrapped (ls : List Line) (skip : Nat) (a : Area) (c : Canvas) : Canvas :=
  drawRows (ls.flatMap (wrap a.width.toNat)) skip a c

def wrappedHeight (ls : List Line) (width : UInt16) : Nat :=
  if width = 0 then 0 else (ls.flatMap (wrap width.toNat)).length

def drawLines (ls : List Line) (a : Area) (c : Canvas) : Canvas :=
  drawRows (ls.map (truncate a.width.toNat 0)) 0 a c

def drawScrolled (ls : List Line) (skip offset : Nat) (a : Area) (c : Canvas) : Canvas :=
  drawRows (ls.map (truncate a.width.toNat offset)) skip a c

end PackageMarket.Screen
