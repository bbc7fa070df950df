import PackageMarket.Text.Width

set_option autoImplicit false

namespace PackageMarket.Screen

def minus (a b : UInt16) : UInt16 := if a < b then 0 else a - b

def plus (a b : UInt16) : UInt16 := if a.toNat + b.toNat < 65536 then a + b else 65535

structure Area where
  x : UInt16
  y : UInt16
  width : UInt16
  height : UInt16
  deriving DecidableEq, Repr

namespace Area

def clipped (x y width height : UInt16) : Area :=
  ⟨x, y, min width (65535 - x), min height (65535 - y)⟩

variable (a : Area)

def right : UInt16 := plus a.x a.width

def bottom : UInt16 := plus a.y a.height

def isEmpty : Bool := a.width = 0 || a.height = 0

def inside : Area :=
  ⟨min (plus a.x 1) a.right, min (plus a.y 1) a.bottom, minus (minus a.width 1) 1,
    minus (minus a.height 1) 1⟩

def row (i : Nat) : Area := ⟨a.x, a.y + i.toUInt16, a.width, 1⟩

def indent (n : Nat) : Area :=
  let x := min (a.x.toNat + n) a.right.toNat
  { a with x := x.toUInt16, width := (a.right.toNat - x).toUInt16 }

end Area

structure Parts where
  header : Area
  list : Area
  sideTop : Area
  sideBottom : Area
  status : Area
  deriving DecidableEq, Repr

def hundredths (percent n : Nat) : Nat := (percent * n + 50) / 100

/-- The list's width: 62 hundredths, unless that leaves less than 28 columns behind the gap. -/
def listWidth (width : Nat) : Nat :=
  let room := width - min 1 width
  min (hundredths 62 width) (room - min 28 room)

def topHeight (height : Nat) : Nat := min (hundredths 55 height) (height - min 4 height)

def parts (a : Area) : Parts :=
  let width := a.width.toNat
  let height := a.height.toNat
  let header := min 1 (height - 5)
  let status := min 1 (height - 5 - header)
  let content := height - header - status
  let list := listWidth width
  let side := list + min 1 width
  let top := topHeight content
  let area (x y w h : Nat) : Area := ⟨a.x + x.toUInt16, a.y + y.toUInt16, w.toUInt16, h.toUInt16⟩
  { header := area 0 0 width header
    list := area 0 header list content
    sideTop := area side header (width - side) top
    sideBottom := area side (header + top) (width - side) (content - top)
    status := area 0 (header + content) width status }

/-- A part of a length, in hundredths, of which more than a hundred count as a hundred. -/
def percentOf (length percent : UInt16) : UInt16 :=
  (length.toNat * (min percent 100).toNat / 100).toUInt16

def popupSize (length percent least margin : UInt16) : UInt16 :=
  min (max (percentOf length percent) least) (minus length margin)

/-- A rectangle in the middle of an area, with two free columns and one free row on each side. -/
def popup (a : Area) (percentWidth percentHeight leastWidth leastHeight : UInt16) : Area :=
  let w := popupSize a.width percentWidth leastWidth 4
  let h := popupSize a.height percentHeight leastHeight 2
  .clipped (a.x + minus a.width w / 2) (a.y + minus a.height h / 2) w h

structure Colour where
  red : Nat
  green : Nat
  blue : Nat
  deriving DecidableEq, Repr

structure Style where
  fore : Option Colour
  back : Option Colour
  bold : Bool
  italic : Bool
  deriving DecidableEq, Repr

namespace Style

def plain : Style := ⟨none, none, false, false⟩

def fg (c : Colour) : Style := { plain with fore := some c }

def bg (c : Colour) : Style := { plain with back := some c }

def on (s : Style) (c : Colour) : Style := { s with back := some c }

def strong (s : Style) : Style := { s with bold := true }

def slanted (s : Style) : Style := { s with italic := true }

/-- What the second style says goes before what the first says. -/
def patch (s t : Style) : Style :=
  ⟨t.fore.or s.fore, t.back.or s.back, s.bold || t.bold, s.italic || t.italic⟩

end Style

structure Cell where
  symbol : List Char
  style : Style
  deriving DecidableEq, Repr

namespace Cell

def blank : Cell := ⟨[' '], .plain⟩

def restyle (s : Style) (c : Cell) : Cell := { c with style := c.style.patch s }

def put (symbol : List Char) (s : Style) (c : Cell) : Cell := ⟨symbol, c.style.patch s⟩

def append (symbol : List Char) (s : Style) (c : Cell) : Cell :=
  ⟨c.symbol ++ symbol, c.style.patch s⟩

end Cell

structure Canvas where
  width : Nat
  height : Nat
  cells : Array Cell

namespace Canvas

def blank (width height : Nat) : Canvas := ⟨width, height, Array.replicate (width * height) .blank⟩

def edit (c : Canvas) (x y : Nat) (f : Cell → Cell) : Canvas :=
  if x < c.width && y < c.height then { c with cells := c.cells.modify (y * c.width + x) f } else c

def editRow (c : Canvas) (y start stop : Nat) (f : Cell → Cell) : Canvas :=
  (List.range' start (min stop c.width - start)).foldl (fun c x => c.edit x y f) c

def editArea (c : Canvas) (a : Area) (f : Cell → Cell) : Canvas :=
  (List.range' a.y.toNat (min a.bottom.toNat c.height - a.y.toNat)).foldl
    (fun c y => c.editRow y a.x.toNat a.right.toNat f) c

def restyle (c : Canvas) (a : Area) (s : Style) : Canvas := c.editArea a (Cell.restyle s)

def clear (c : Canvas) (a : Area) : Canvas := c.editArea a fun _ => .blank

def clip (c : Canvas) (a : Area) : Area :=
  ⟨a.x, a.y, (min a.right.toNat c.width - a.x.toNat).toUInt16,
    (min a.bottom.toNat c.height - a.y.toNat).toUInt16⟩

/-- What a terminal shows of cell `i`: nothing behind a wide symbol, which covers it. -/
def shown (c : Canvas) (i : Nat) : Cell :=
  if 0 < i && 1 < Text.width (c.cells.getD (i - 1) .blank).symbol then .blank
  else c.cells.getD i .blank

def rows (c : Canvas) : List (List Cell) :=
  (List.range c.height).map fun y => (List.range c.width).map fun x => c.shown (y * c.width + x)

end Canvas
end PackageMarket.Screen
