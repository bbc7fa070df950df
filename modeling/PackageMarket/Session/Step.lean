import PackageMarket.Journal.Log
import PackageMarket.Session.State

set_option autoImplicit false

/-!
One event makes a new state, at most one action, and notes for the journal. Keys go to the topmost
dialog; without a dialog they go to the page.
-/

namespace PackageMarket

open Market Journal

structure Outcome where
  state : State
  actions : List Action
  notes : List Note

/-- Why a session cannot go on. -/
inductive Halt where
  | clock
  | unread (f : Json.Fault)

namespace Outcome

def quiet (s : State) : Outcome := ⟨s, [], []⟩

def act (s : State) (a : Action) : Outcome := ⟨s, [a], []⟩

end Outcome

namespace Session

def note (level : Level) (text : String) (values : List (String × String)) : Note :=
  ⟨level, "pkgmart::app::handler", text, values⟩

def editField (k : Key) (f : TextField) : TextField :=
  match k.code with
  | .char c =>
    if k.ctrl then
      match c with
      | 'w' => f.deleteWordBack
      | 'a' => f.moveHome
      | 'e' => f.moveEnd
      | _ => f
    else f.insertChar c
  | .backspace => f.deleteBack
  | .delete => f.deleteForward
  | .left => f.moveLeft
  | .right => f.moveRight
  | .home => f.moveHome
  | .last => f.moveEnd
  | _ => f

def pageStep : Nat := 10

/-- Submits the topmost dialog. One that sends a request is gone before the request goes out. -/
def submitTop (s : State) : Except Halt Outcome :=
  match s.dialogs with
  | [] => .ok (.quiet s)
  | d :: ds =>
    match d.dialog.submit with
    | .error f => .error (.unread f)
    | .ok (after, .refused) =>
      .ok ⟨{ s with dialogs := ⟨d.id, after⟩ :: ds }, [],
        [note .debug "validation failed" [("dialog_id", natText d.id)]]⟩
    | .ok (_, .send request) =>
      let s := s.closeTop
      match d.dialog.operation? with
      | none => .ok (.quiet s)
      | some op =>
        .ok (.act { s with pending := State.insertPending d.id op s.pending, statusMessage := none }
          (.submit d.id op request))
    | .ok (_, .tell m) =>
      let title := (d.dialog.operation?.map Operation.title).getD "Message"
      .ok (.quiet (s.closeTop.openDialog (.newMessage title m)))

def formKey (s : State) (k : Key) : Except Halt Outcome :=
  match k.code with
  | .enter => submitTop s
  | .tab | .down => .ok (.quiet (s.editTop (·.mapForm Form.focusNext)))
  | .backTab | .up => .ok (.quiet (s.editTop (·.mapForm Form.focusPrev)))
  | _ => .ok (.quiet (s.editTop (·.mapForm (·.editFocused (editField k)))))

def editorKey (s : State) (k : Key) : Except Halt Outcome :=
  if k.ctrl && k.code = .char 's' then submitTop s
  else
    let edit : TextField → TextField := fun f =>
      match k.code with
      | .enter => f.insertChar '\n'
      | .tab => f.insertText [' ', ' ']
      | .up => f.moveUp
      | .down => f.moveDown
      | _ => editField k f
    .ok (.quiet (s.editTop (·.mapEditor edit)))

def confirmKey (s : State) (k : Key) : Except Halt Outcome :=
  match k.code with
  | .enter | .char 'y' | .char 'Y' => submitTop s
  | .char 'n' | .char 'N' => .ok (.quiet s.closeTop)
  | _ => .ok (.quiet s)

def viewerMove (max : Nat) (code : KeyCode) (shown : Nat) : Nat :=
  match code with
  | .up => shown - 1
  | .down => shown + 1
  | .pageUp => shown - pageStep
  | .pageDown => shown + pageStep
  | .home => 0
  | .last => max
  | _ => shown

def viewerKey (s : State) (k : Key) : Outcome :=
  match k.code with
  | .enter | .char 'q' => .quiet s.closeTop
  | code => .quiet (s.editTop (·.mapScroll fun v => v.move (viewerMove v.max code)))

def dialogKey (s : State) (d : Dialog) (k : Key) : Except Halt Outcome :=
  match d with
  | .selfIssueCash _ | .feeAgreement _ => formKey s k
  | .registerPkg _ | .updatePkg _ => editorKey s k
  | .buyPkg _ | .deletePkg _ => confirmKey s k
  | .details .. | .message .. => .ok (viewerKey s k)

def openFor (s : State) (make : Offer → Dialog) : State :=
  match s.selectedOffer? with
  | some o => s.openDialog (make o)
  | none => { s with statusMessage := some "No package selected" }

def marketplaceKey (s : State) (code : KeyCode) : State :=
  match code with
  | .char 'b' => openFor s .newBuy
  | .char 'i' => s.openDialog .newCash
  | _ => s

def developerKey (s : State) (code : KeyCode) : State :=
  match code with
  | .char 'n' => s.openDialog .newRegister
  | .char 'u' => s.openDialog (.newUpdate s.selectedOffer?)
  | .char 'x' | .delete => openFor s .newDelete
  | .char 'f' => s.openDialog .newFee
  | _ => s

def pageDown (length : Nat) (selected : Nat) : Nat :=
  Nat.repeat (Selection.next length) pageStep selected

def pageKey (s : State) (k : Key) : Outcome :=
  let s := { s with statusMessage := none }
  match k.code with
  | .char 'q' => .act s .quit
  | .tab | .function 2 => .quiet { s with page := s.page.other, dirty := true }
  | .char 'r' => .act s (.refresh Target.all)
  | .up => .quiet (s.moveCursor fun _ => Selection.prev)
  | .down => .quiet (s.moveCursor Selection.next)
  | .pageUp => .quiet (s.moveCursor fun _ i => i - pageStep)
  | .pageDown => .quiet (s.moveCursor pageDown)
  | .home => .quiet (s.moveCursor fun _ _ => 0)
  | .last => .quiet (s.moveCursor fun n _ => n - 1)
  | .enter =>
    match s.selectedOffer? with
    | some o => .quiet (s.openDialog (.newDetails o))
    | none => .quiet s
  | code =>
    match s.page with
    | .marketplace => .quiet (marketplaceKey s code)
    | .developer => .quiet (developerKey s code)

/-- `Ctrl` with `c` quits and `Esc` dismisses, whatever the dialog. -/
def key (s : State) (k : Key) : Except Halt Outcome :=
  if k.ctrl && k.code = .char 'c' then .ok (.act s .quit)
  else
    match s.dialogs with
    | [] => .ok (pageKey s k)
    | d :: _ =>
      if k.code = .esc then
        .ok ⟨s.closeTop, [], [note .debug "dialog dismissed" [("dialog_id", natText d.id)]]⟩
      else dialogKey s d.dialog k

/-- A text is pasted into the field in focus or the editor of the
topmost dialog, and nowhere else. -/
def paste (s : State) (text : List Char) : State :=
  match s.dialogs with
  | [] => s
  | d :: _ =>
    match d.dialog with
    | .registerPkg _ | .updatePkg _ =>
      { s.editTop (·.mapEditor (·.insertText text)) with dirty := true }
    | .selfIssueCash f | .feeAgreement f =>
      if f.focused?.isSome then
        { s.editTop (·.mapForm (·.editFocused (·.insertText text))) with dirty := true }
      else s
    | _ => s

def input (s : State) : Input → Except Halt Outcome
  | .key k => if k.kind = .release then .ok (.quiet s) else key { s with dirty := true } k
  | .paste text => .ok (.quiet (paste s text))
  | .resize => .ok (.quiet { s with dirty := true })
  | .other => .ok (.quiet s)

def statusText : Option Nat → String
  | some n => "Some(" ++ natText n ++ ")"
  | none => "None"

/-- An answer is shown over everything else; after a success what it made stale is fetched again. -/
def response (s : State) (id : Nat) (op : Operation) (m : Message) : Outcome :=
  let s := { s with pending := State.removePending id s.pending }
  ⟨s.openDialog (.newMessage op.title m),
    if m.isSuccess then [.refresh op.affected] else [],
    [note .info "response received"
      [("dialog_id", natText id), ("operation", op.display), ("status", statusText m.status?)]]⟩

def tick (s : State) (now : Clock.Moment) : Except Halt Outcome :=
  match Clock.render now s.settings.timestampFormat with
  | none => .error .clock
  | some t => .ok (.quiet (if t = s.clock then s else { s with clock := t, dirty := true }))

def step (s : State) : Event → Except Halt Outcome
  | .input i => input s i
  | .response id op m => .ok (response s id op m)
  | .refreshed v =>
    .ok ⟨s.refresh v, [], [note .info "view model refreshed" [("target", v.target.name)]]⟩
  | .refreshFailed t e =>
    .ok ⟨s, [], [note .warn "refresh failed" [("target", t.name), ("error", e)]]⟩
  | .tick now => tick s now

end Session
end PackageMarket
