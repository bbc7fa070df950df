import PackageMarket.Market.View
import PackageMarket.Screen.Canvas
import PackageMarket.Screen.Line

set_option autoImplicit false

namespace PackageMarket.Screen.Theme

open Market

def dark : Colour := ⟨22, 24, 30⟩
def surface : Colour := ⟨30, 33, 41⟩
def raised : Colour := ⟨40, 44, 54⟩
def primary : Colour := ⟨220, 223, 228⟩
def secondary : Colour := ⟨150, 156, 168⟩
def faint : Colour := ⟨98, 104, 117⟩
def dim : Colour := ⟨62, 68, 81⟩
def teal : Colour := ⟨86, 182, 194⟩
def green : Colour := ⟨152, 195, 121⟩
def amber : Colour := ⟨229, 192, 123⟩
def red : Colour := ⟨224, 108, 117⟩
def violet : Colour := ⟨198, 120, 221⟩

def accent : Role → Colour
  | .buyer => green
  | .repositoryNode => violet
  | .other => teal

def border : Style := .fg dim
def borderFocused (r : Role) : Style := .fg (accent r)
def panel : Style := .bg dark
def title : Style := (Style.fg primary).strong
def selected (r : Role) : Style := ((Style.fg dark).on (accent r)).strong
def text : Style := .fg primary
def label : Style := .fg secondary
def muted : Style := (Style.fg faint).slanted
def error : Style := .fg red
def success : Style := .fg green
def keyHint : Style := (Style.fg amber).strong
def statusBar : Style := (Style.fg primary).on raised
def scrollThumb : Style := .fg secondary
def scrollTrack : Style := .fg dim

inductive Corners where
  | rounded
  deriving DecidableEq, Repr

def corners : Corners := .rounded

end PackageMarket.Screen.Theme

namespace PackageMarket.Screen

structure Panel where
  title : List Char
  note : Option Line
  border : Style
  back : Style

namespace Panel

def drawBorder (p : Panel) (a : Area) (c : Canvas) : Canvas :=
  let put (s : Char) : Cell → Cell := Cell.put [s] p.border
  let left := a.x.toNat
  let right := a.right.toNat - 1
  let top := a.y.toNat
  let bottom := a.bottom.toNat - 1
  let c := c.editArea { a with width := 1 } (put '│')
  let c := c.editArea { a with height := 1 } (put '─')
  let c := c.editArea { a with x := right.toUInt16, width := 1 } (put '│')
  let c := c.editArea { a with y := bottom.toUInt16, height := 1 } (put '─')
  let c := c.edit right bottom (put '╯')
  let c := c.edit right top (put '╮')
  let c := c.edit left bottom (put '╰')
  c.edit left top (put '╭')

def edge (a : Area) (y : UInt16) : Area := ⟨a.x + 1, y, minus (minus a.width 1) 1, 1⟩

def drawTitle (p : Panel) (a : Area) (c : Canvas) : Canvas :=
  let e := edge a a.y
  if e.isEmpty then c
  else
    let line := Line.ofText p.title
    let e := { e with width := min line.width.toUInt16 e.width }
    line.draw e (c.restyle e Theme.title)

def drawNote (p : Panel) (a : Area) (c : Canvas) : Canvas :=
  match p.note with
  | none => c
  | some line =>
    let e := edge a (a.bottom - 1)
    if e.isEmpty then c
    else
      let w := line.width.toUInt16
      let e := { e with x := max (minus e.right w) e.x, width := min w e.width }
      line.drawRight e (c.restyle e Theme.title)

def draw (p : Panel) (a : Area) (c : Canvas) : Canvas :=
  let a := c.clip a
  if a.isEmpty then c
  else p.drawNote a (p.drawTitle a (p.drawBorder a (c.restyle a p.back)))

end Panel

namespace Listing

/-- The first item in view: no further than the selection needs. -/
def first (height selected : Nat) : Nat := selected + 1 - height

def drawFrom (y : Nat) (a : Area) : List Line → Canvas → Canvas
  | [], c => c
  | l :: ls, c => drawFrom (y + 1) a ls (l.draw (a.row y) c)

def draw (items : List Line) (a : Area) (c : Canvas) : Canvas :=
  if a.isEmpty then c else drawFrom 0 a (items.take a.height.toNat) c

def mark : Char := '▸'

def drawMarked (highlight : Style) (selected i y : Nat) (a : Area) : List Line → Canvas → Canvas
  | [], c => c
  | l :: ls, c =>
    let row := a.row y
    let c := l.draw (row.indent 1) c
    let c := (span (String.singleton (if i = selected then mark else ' ')) .plain).draw row c
    let c := if i = selected then c.restyle row highlight else c
    drawMarked highlight selected (i + 1) (y + 1) a ls c

def drawSelected (items : List Line) (selected : Nat) (highlight : Style) (a : Area) (c : Canvas) :
    Canvas :=
  if a.isEmpty then c
  else
    let selected := min selected (items.length - 1)
    let i := first a.height.toNat selected
    drawMarked highlight selected i 0 a ((items.drop i).take a.height.toNat) c

end Listing
end PackageMarket.Screen

namespace PackageMarket.Screen.Scrollbar

def nearest (n d : Nat) : Nat := (2 * n + d) / (2 * d)

/-- Where the thumb begins on a track and how long it is: as much of the track as the view, from
`row` on, is of the `max` rows it can begin at and the view behind them. -/
def thumb (track view max row : Nat) : Nat × Nat :=
  let start := min (nearest (min row max * track) (max + view)) (track - 1)
  let stop := min (nearest ((min row max + view) * track) (max + view)) track
  (start, Nat.max (stop - start) 1)

def draw (max row : Nat) (a : Area) (c : Canvas) : Canvas :=
  let track := a.height.toNat - 2
  if track = 0 || a.width = 0 then c
  else
    let x := a.right.toNat - 1
    let top := a.y.toNat
    let (start, length) := thumb track a.height.toNat max row
    let put (s : Char) (style : Style) : Cell → Cell := Cell.put [s] style
    let c := c.edit x top (put '▲' .plain)
    let c := (List.range track).foldl (fun c i =>
      c.edit x (top + 1 + i)
        (if start ≤ i && i < start + length then put '█' Theme.scrollThumb
         else put '║' Theme.scrollTrack)) c
    c.edit x (top + 1 + track) (put '▼' .plain)

end PackageMarket.Screen.Scrollbar
