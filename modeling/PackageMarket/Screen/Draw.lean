import PackageMarket.Screen.Canvas
import PackageMarket.Screen.Line
import PackageMarket.Screen.Panel
import PackageMarket.Session.State
import PackageMarket.Session.Step

set_option autoImplicit false

namespace PackageMarket.Screen

open Market

def padRight (n : Nat) (s : String) : String :=
  s ++ String.ofList (List.replicate (n - s.length) ' ')

def padLeft (n : Nat) (s : String) : String :=
  String.ofList (List.replicate (n - s.length) ' ') ++ s

def natText (n : Nat) : String := String.ofList (Decimal.digits n)

def drawHeader (s : State) (a : Area) (c : Canvas) : Canvas :=
  let accent := Theme.accent s.role
  let raised (fore : Colour) : Style := (Style.fg fore).on Theme.raised
  let tab (label : String) (p : Page) : Span :=
    span (" " ++ label ++ " ")
      (if s.page = p then ((Style.fg Theme.dark).on accent).strong else raised Theme.secondary)
  let me := match s.identity with
    | some i => if i.me.isEmpty then "connecting..." else i.me
    | none => "connecting..."
  drawLines
    [[span " pkgmart " (raised accent).strong, tab "Marketplace" .marketplace,
      tab "Developer" .developer, span " │ " (raised Theme.dim),
      span me (raised Theme.primary).slanted]]
    a (c.restyle (c.clip a) (.bg Theme.raised))

def offerLine (o : Offer) : Line :=
  [span (" " ++ padRight 4 ((o.kind.map PackageKind.name).getD "---")) Theme.label,
    span (padRight 24 o.name) Theme.text,
    span (" v" ++ padRight 8 o.version) Theme.label,
    span (" " ++ padLeft 14 o.price.display) (.fg Theme.amber),
    span ("  " ++ o.authorName) Theme.muted]

def drawList (s : State) (a : Area) (c : Canvas) : Canvas :=
  let offers := s.visibleOffers
  let name := match s.page with
    | .marketplace => "Marketplace"
    | .developer => "My packages"
  let panel : Panel :=
    { title := (" " ++ name ++ " (" ++ natText offers.length ++ ") ").toList
      note := none
      border := if s.dialogs.isEmpty then Theme.borderFocused s.role else Theme.border
      back := Theme.panel }
  let c := panel.draw a c
  if offers.isEmpty then Listing.draw [[span " No packages" Theme.muted]] a.inside c
  else Listing.drawSelected (offers.map offerLine) s.cursor (Theme.selected s.role) a.inside c

def sidePanel (title : String) (s : State) (t : Target) : Panel :=
  { title := title.toList
    note := (s.refreshedAt t).map fun at_ => [span (" " ++ at_ ++ " ") Theme.muted]
    border := Theme.border
    back := Theme.panel }

def licenseLine (l : License) : Line :=
  match l.offer with
  | some o =>
    [span " ◆ " (.fg Theme.green), span o.name Theme.text, span (" v" ++ o.version) Theme.label]
  | none => [span (" ◇ " ++ l.pkgLicensed.compactText) Theme.muted]

def balanceLine (b : String × Json.Value) : Line :=
  [span (" " ++ padRight 5 b.1) Theme.label, span (balanceLabel b.2) (.fg Theme.amber)]

def drawItems (p : Panel) (items : List Line) (none : String) (a : Area) (c : Canvas) : Canvas :=
  Listing.draw (if items.isEmpty then [[span none Theme.muted]] else items) a.inside (p.draw a c)

def feeLines : Option FeeAgreement → List Line
  | some f =>
    [[span " Fee         " Theme.label,
      span (String.ofList (Decimal.ofInt f.fee) ++ "%") (Style.fg Theme.amber).strong],
     [span " Developer   " Theme.label, span (partyName f.developer) Theme.text],
     [span " Repository  " Theme.label, span (partyName f.repositoryNode) Theme.text]]
  | none => [[span " No fee agreement established" Theme.muted]]

def actionLines : List Line :=
  [("n", "Register package"), ("u", "Update selected"), ("x / Del", "Delete selected"),
    ("f", "Establish fee agreement"), ("r", "Refresh")].map fun r =>
    [span (" " ++ padRight 8 r.1) Theme.keyHint, span r.2 Theme.label]

def drawSide (s : State) (top bottom : Area) (c : Canvas) : Canvas :=
  match s.page with
  | .marketplace =>
    let c := drawItems (sidePanel " Licenses " s .licenses) (s.licenses.map licenseLine)
      " No licenses" top c
    drawItems (sidePanel " Balances " s .balances) (s.balances.map balanceLine) " No cash" bottom c
  | .developer =>
    let c := (sidePanel " Fee agreement " s .feeAgreement).draw top c
    let c := drawWrapped (feeLines s.feeAgreement) 0 top.inside c
    let c := (sidePanel " Actions " s .pkgOffers).draw bottom c
    drawLines actionLines bottom.inside c

def hints : Page → String
  | .marketplace => "↑↓ select  Enter details  b buy  i issue cash  r refresh  Tab page  q quit"
  | .developer => "↑↓ select  Enter details  Tab page  q quit"

def drawStatus (s : State) (a : Area) (c : Canvas) : Canvas :=
  let left : Line :=
    [span (" " ++ s.clock ++ " ") ((Style.fg (Theme.accent s.role)).on Theme.raised),
      span (" " ++ s.statusLine ++ " ") Theme.statusBar]
  let keys := hints s.page
  let free := a.width.toNat - (left.width + (keys.length + 2))
  drawLines
    [left ++ [⟨List.replicate free ' ', Theme.statusBar⟩,
      span (" " ++ keys ++ " ") ((Style.fg Theme.secondary).on Theme.raised)]] a c

def drawPage (s : State) (a : Area) (c : Canvas) : Canvas :=
  let p := parts a
  let c := drawHeader s p.header c
  let c := drawList s p.list c
  let c := drawSide s p.sideTop p.sideBottom c
  drawStatus s p.status c

/-- What has been drawn, and where the terminal's cursor is to stand. -/
structure Frame where
  canvas : Canvas
  cursor : Option (UInt16 × UInt16)

def dialogArea (a : Area) : Dialog → Area
  | .selfIssueCash _ | .feeAgreement _ => popup a 50 40 50 14
  | .buyPkg _ | .deletePkg _ => popup a 50 30 50 11
  | .registerPkg _ | .updatePkg _ => popup a 75 80 60 20
  | .details .. | .message .. => popup a 70 70 50 12

def dialogKeys : Dialog → List (String × String)
  | .selfIssueCash _ => [("Enter", "Submit"), ("Tab", "Next field"), ("Esc", "Cancel")]
  | .feeAgreement _ => [("Enter", "Submit"), ("Esc", "Cancel")]
  | .buyPkg _ => [("y/Enter", "Buy"), ("n/Esc", "Cancel")]
  | .deletePkg _ => [("y/Enter", "Delete"), ("n/Esc", "Cancel")]
  | .registerPkg _ | .updatePkg _ =>
    [("Ctrl+S", "Submit"), ("Enter", "New line"), ("Esc", "Cancel")]
  | .details .. | .message .. => [("↑↓", "Scroll"), ("Enter/Esc", "Close")]

def keyLine (keys : List (String × String)) : Line :=
  keys.flatMap fun k =>
    [span (" " ++ k.1) Theme.keyHint, span (" " ++ k.2 ++ " ") Theme.label]

def labelWidth (f : Form) : Nat := ((f.fields.map (·.label.length)).foldl max 0) + 2

def fieldLine (r : Role) (labels : Nat) (focused : Bool) (f : TextField) : Line :=
  [span (if focused then "▸ " else "  ") (.fg (Theme.accent r)),
    span (padRight labels f.label) Theme.label,
    span (padRight 16 (String.ofList f.text))
      (if focused then (Style.fg Theme.primary).on Theme.raised else Theme.text)]

def fieldLines (r : Role) (f : Form) : List Line :=
  [] :: (f.fields.zipIdx.flatMap fun (g, i) => [fieldLine r (labelWidth f) (i = f.focus) g, []])

def errorLines (f : Form) : List Line :=
  if f.hasErrors then f.errors.map fun e => [span ("  ✗ " ++ e) Theme.error] else []

def formCursor (a : Area) (f : Form) : Option (UInt16 × UInt16) :=
  match f.focused? with
  | none => none
  | some g =>
    let x := a.x + 2 + (labelWidth f).toUInt16 + g.cursorPosition.2.toUInt16
    let y := a.y + (2 * f.focus + 2).toUInt16 - 1
    if y < a.bottom then some (min x (minus a.right 1), y) else none

def drawForm (r : Role) (f : Form) (a : Area) (c : Canvas) : Canvas :=
  drawWrapped (fieldLines r f ++ errorLines f) 0 a c

def summaryLine (label : String) (value : String) (style : Style) : Line :=
  [span ("  " ++ padRight 12 label) Theme.label, span value style]

def purchaseLines (p : Purchase) : List Line :=
  [[], summaryLine "Package" p.name Theme.text, summaryLine "Info id" p.pkgInfoId Theme.text,
    summaryLine "Type" ((p.kind.map PackageKind.name).getD "") Theme.text,
    summaryLine "Price" p.price.display (Style.fg Theme.amber).strong]

def removalLines (r : Removal) : List Line :=
  [[], summaryLine "Package" r.name Theme.text,
    summaryLine "Linear id" (linearIdLabel r.linearId) Theme.text, [],
    [span "  This removes the offer from the marketplace." Theme.error]]

/-- Rows and columns scrolled away, so that the cursor stays in view. -/
def editorOffset (a : Area) (e : TextField) : Nat × Nat :=
  let (line, column) := e.cursorPosition
  (line - (max a.height 1).toNat.pred, column - (max a.width 1).toNat.pred)

def editorCursor (a : Area) (e : TextField) : UInt16 × UInt16 :=
  let (line, column) := e.cursorPosition
  let (skip, offset) := editorOffset a e
  (a.x + (column - offset).toUInt16, a.y + (line - skip).toUInt16)

def drawEditor (e : TextField) (a : Area) (c : Canvas) : Canvas :=
  let (skip, offset) := editorOffset a e
  let ls : List Line := (Text.splitOn '\n' e.text).map fun l => [⟨l, Theme.text⟩]
  drawScrolled ls skip.toUInt16.toNat offset.toUInt16.toNat a
    (c.restyle (c.clip a) (.bg Theme.dark))

def scrollArea (a : Area) : Area := { a with width := minus a.width 1 }

def maxScroll (ls : List Line) (a : Area) : Nat :=
  min (wrappedHeight ls (scrollArea a).width - a.height.toNat) 65535

def drawScroll (ls : List Line) (s : Scroll) (a : Area) (c : Canvas) : Canvas :=
  let c := drawWrapped ls s.shown (scrollArea a) c
  if s.max = 0 then c else Scrollbar.draw s.max s.shown a c

def textLines (s : String) : List Line := (Text.lines s.toList).map fun l => [⟨l, Theme.text⟩]

def headline : Message → Span
  | .reply r =>
    span ("HTTP " ++ natText r.status) (if r.isSuccess then Theme.success else Theme.error).strong
  | .failed _ => span "No response" Theme.error.strong
  | .atHome _ => span "Not sent" Theme.error.strong

def viewerLines : Dialog → List Line
  | .details _ text _ => textLines text
  | .message _ m _ => [headline m] :: [] :: textLines m.display
  | _ => []

def dialogInside (a : Area) (d : Dialog) : Option Area :=
  let i := (dialogArea a d).inside
  if i.height < 3 || i.width < 10 then none else some i

def dialogBody (inside : Area) : Area := { inside with height := inside.height - 1 }

def dialogHelp (inside : Area) : Area :=
  { inside with y := inside.y + inside.height - 1, height := 1 }

def measured (a : Area) (d : Dialog) : Dialog :=
  match dialogInside a d with
  | none => d
  | some i => d.mapScroll fun s => { s with max := maxScroll (viewerLines d) (dialogBody i) }

def drawBody (r : Role) (d : Dialog) (a : Area) (c : Canvas) : Canvas :=
  match d with
  | .selfIssueCash f | .feeAgreement f => drawForm r f a c
  | .buyPkg p => drawLines (purchaseLines p) a c
  | .deletePkg p => drawLines (removalLines p) a c
  | .registerPkg e | .updatePkg e => drawEditor e a c
  | .details _ _ s | .message _ _ s => drawScroll (viewerLines d) s a c

def bodyCursor (d : Dialog) (a : Area) : Option (UInt16 × UInt16) :=
  match d with
  | .selfIssueCash f | .feeAgreement f => formCursor a f
  | .registerPkg e | .updatePkg e => some (editorCursor a e)
  | _ => none

/-- Draws a dialog that has been measured. Only the topmost one has a cursor. -/
def drawDialog (r : Role) (onTop : Bool) (screen : Area) (d : Dialog) (f : Frame) : Frame :=
  let a := dialogArea screen d
  let panel : Panel :=
    { title := (" " ++ d.title ++ " ").toList
      note := none
      border := if onTop then Theme.borderFocused r else Theme.border
      back := .bg Theme.surface }
  let c := panel.draw a (f.canvas.clear a)
  match dialogInside screen d with
  | none => { f with canvas := c }
  | some i =>
    let c := drawBody r d (dialogBody i) c
    let c := drawLines [keyLine (dialogKeys d)] (dialogHelp i) c
    { canvas := c, cursor := if onTop then (bodyCursor d (dialogBody i)).or f.cursor else f.cursor }

end PackageMarket.Screen

namespace PackageMarket

open Screen

namespace State

/-- The state once it has been drawn on a screen: dialogs that scroll know how far. -/
def measured (s : State) (screen : Area) : State :=
  { s with dialogs := s.dialogs.map fun d => { d with dialog := Screen.measured screen d.dialog } }

def draw (s : State) (screen : Area) : Frame :=
  let page := drawPage s screen (.blank screen.width.toNat screen.height.toNat)
  let dialogs := (s.measured screen).dialogs
  match dialogs with
  | [] => ⟨page, none⟩
  | top :: below =>
    let f := below.reverse.foldl (fun f d => drawDialog s.role false screen d.dialog f) ⟨page, none⟩
    drawDialog s.role true screen top.dialog f

end State

/-- A session that waits for an event, and what its user has before him. -/
structure Display where
  state : State
  screen : Area
  frame : Frame

namespace Display

def start (s : State) (screen : Area) : Display := ⟨s.measured screen, screen, s.draw screen⟩

def after (d : Display) (s : State) (screen : Area) : Display :=
  if s.dirty then ⟨{ s.measured screen with dirty := false }, screen, s.draw screen⟩
  else { d with state := s }

/-- Every display while events come in, each with the terminal as it is then. The session that is
quit waits for nothing more. -/
def watch (d : Display) : List (Event × Area) → Except Halt (List Display)
  | [] => .ok [d]
  | (e, screen) :: es => do
    let o ← Session.step d.state e
    if o.actions.any Action.isQuit then
      return [d]
    let ds ← watch (d.after o.state screen) es
    return d :: ds

end Display
end PackageMarket
