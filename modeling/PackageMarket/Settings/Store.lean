import PackageMarket.Files.Disk
import PackageMarket.Settings.Settings
import PackageMarket.Toml.Document

set_option autoImplicit false

/-!
The file of the settings. Each of its three tables and each of their members can be absent and
leaves its default; unknown members are passed over. An array stands for a table, its items for the
members in order.
-/

namespace PackageMarket.Settings

open Toml

/-- The members of a section, by place or name; a moment is a section without any. -/
def section? (v : Value) : Option (Nat → List Char → Option Value) :=
  match v with
  | .table _ ms => some fun _ name => lookup name ms
  | .array vs => some fun i _ => vs[i]?
  | .moment _ => some fun _ _ => none
  | _ => none

def string? : Value → Option String
  | .string s => some (String.ofList s)
  | _ => none

def boolean? : Value → Option Bool
  | .boolean b => some b
  | _ => none

/-- A page under its name, or a table of one name with nothing under it. -/
def page? : Value → Option Page
  | .string s => named s
  | .table shape ms =>
    match shape, ms with
    | .inline, [(name, v)] => if isNothing v then named name else none
    | .block, (name, v) :: _ => if isNothing v then named name else none
    | _, _ => none
  | _ => none
where
  named (s : List Char) : Option Page :=
    [Page.marketplace, .developer].find? fun p => p.name.toList = s
  isNothing : Value → Bool
    | .array vs => vs.isEmpty
    | .table _ ms => ms.isEmpty
    | _ => false

def orDefault {α : Type} (read : Value → Option α) (default : α) : Option Value → Option α
  | none => some default
  | some v => read v

def findSection (ms : List (List Char × Value)) (name : String) :
    Option (Nat → List Char → Option Value) :=
  orDefault section? (fun _ _ => none) (lookup name.toList ms)

def ofTable (ms : List (List Char × Value)) : Option Settings := do
  let api ← findSection ms "api"
  let ui ← findSection ms "ui"
  let log ← findSection ms "logging"
  let member {α : Type} (of : Nat → List Char → Option Value) (i : Nat) (name : String)
      (read : Value → Option α) (default : α) : Option α :=
    orDefault read default (of i name.toList)
  some
    { baseUrl := ← member api 0 "base_url" string? default.baseUrl
      timestampFormat := ← member ui 0 "timestamp_format" string? default.timestampFormat
      startPage := ← member ui 1 "start_page" page? default.startPage
      log :=
        { enabled := ← member log 0 "enabled" boolean? default.log.enabled
          dir := ← member log 1 "log_dir" string? default.log.dir
          level := ← member log 2 "level" string? default.log.level } }

def ofText (s : List Char) : Option Settings := do
  let ms ← Toml.read s
  let settings ← ofTable ms
  some settings.repaired

def line (key : String) (value : List Char) : List Char :=
  key.toList ++ " = ".toList ++ value ++ ['\n']

def text (s : Settings) : List Char :=
  "[api]\n".toList ++
  line "base_url" (quote s.baseUrl.toList) ++
  "\n[ui]\n".toList ++
  line "timestamp_format" (quote s.timestampFormat.toList) ++
  line "start_page" (quote s.startPage.name.toList) ++
  "\n[logging]\n".toList ++
  line "enabled" (if s.log.enabled then "true".toList else "false".toList) ++
  line "log_dir" (quote s.log.dir.toList) ++
  line "level" (quote s.log.level.toList)

open Files

inductive StoreFault where
  | unreadable (p : Path)
  | malformed (p : Path)
  | noDirectory (p : Path)
  | unwritable (p : Path)
  deriving DecidableEq, Repr

def StoreFault.text : StoreFault → String
  | .unreadable p => "Failed to read config from " ++ String.ofList p
  | .malformed p => "Failed to parse config file " ++ String.ofList p
  | .noDirectory p => "Failed to create config directory " ++ String.ofList p
  | .unwritable p => "Failed to write config to " ++ String.ofList p

def defaultPath (home : Path) : Path :=
  ((home.join ".config".toList).join "pkgmart".toList).join "config.toml".toList

variable {m : Type → Type} [Monad m]

def load (files : Access m) (p : Path) : m (Except StoreFault Settings) := do
  if ← files.isPresent p then
    match (← files.read p).bind String.fromUTF8? with
    | none => return .error (.unreadable p)
    | some text =>
      match ofText text.toList with
      | none => return .error (.malformed p)
      | some s => return .ok s
  else return .ok default

def save (files : Access m) (p : Path) (s : Settings) : m (Except StoreFault Unit) := do
  match p.parent? with
  | none => write
  | some dir => if ← files.makeDirectories dir then write else return .error (.noDirectory dir)
where
  write : m (Except StoreFault Unit) := do
    if ← files.write p (String.ofList s.text).toUTF8 then return .ok ()
    else return .error (.unwritable p)

end PackageMarket.Settings
