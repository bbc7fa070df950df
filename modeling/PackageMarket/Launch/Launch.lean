import PackageMarket.Files.Disk
import PackageMarket.Journal.Log
import PackageMarket.Settings.Store

set_option autoImplicit false

/-!
The way from the command line to a running client: arguments are read from left to right, settings
are loaded, arguments go before them, and the log is opened. Each step can end it.
-/

namespace PackageMarket.Launch

open Files

inductive Parameter where
  | config
  | apiUrl
  deriving DecidableEq, Repr

inductive Switch where
  | dev
  | writeConfig
  | help
  | version
  deriving DecidableEq, Repr

def Parameter.name : Parameter → String
  | .config => "--config"
  | .apiUrl => "--api-url"

def Parameter.usage : Parameter → String
  | .config => "--config <CONFIG>"
  | .apiUrl => "--api-url <API_URL>"

def Switch.name : Switch → String
  | .dev => "--dev"
  | .writeConfig => "--write-config"
  | .help => "--help"
  | .version => "--version"

structure Options where
  config : Option Path
  apiUrl : Option String
  dev : Bool
  writeConfig : Bool
  deriving DecidableEq, Repr

def Options.none : Options := ⟨.none, .none, false, false⟩

inductive UsageFault where
  | unknown (argument : String)
  | noValue (p : Parameter)
  | repeated (usage : String)
  | unexpectedValue (s : Switch) (value : String)
  deriving DecidableEq, Repr

def UsageFault.text : UsageFault → String
  | .unknown a => "unexpected argument '" ++ a ++ "' found"
  | .noValue p => "a value is required for '" ++ p.usage ++ "' but none was supplied"
  | .repeated u => "the argument '" ++ u ++ "' cannot be used multiple times"
  | .unexpectedValue s v =>
    "unexpected value '" ++ v ++ "' for '" ++ s.name ++ "' found; no more were expected"

/-- Why reading ends before all arguments are read. -/
inductive Stop where
  | fault (f : UsageFault)
  | help
  | version
  deriving DecidableEq, Repr

/-- A parameter waits for its value, the next plain argument, and takes effect when anything else
comes or nothing more. -/
structure Reading where
  options : Options
  waiting : Option (Parameter × Option (List Char))
  deriving DecidableEq, Repr

namespace Reading

def set (r : Reading) (p : Parameter) (v : List Char) : Except Stop Reading :=
  match p with
  | .config =>
    if r.options.config.isSome then .error (.fault (.repeated p.usage))
    else if v.isEmpty then .error (.fault (.noValue p))
    else .ok { r with options := { r.options with config := some v } }
  | .apiUrl =>
    if r.options.apiUrl.isSome then .error (.fault (.repeated p.usage))
    else .ok { r with options := { r.options with apiUrl := some (String.ofList v) } }

/-- Lets the waiting parameter take effect. -/
def settle (r : Reading) : Except Stop Reading :=
  match r.waiting with
  | none => .ok r
  | some (p, none) => .error (.fault (.noValue p))
  | some (p, some v) => { r with waiting := none }.set p v

def turn (r : Reading) (s : Switch) : Except Stop Reading := do
  let r ← r.settle
  match s with
  | .help => .error .help
  | .version => .error .version
  | .dev =>
    if r.options.dev then .error (.fault (.repeated s.name))
    else .ok { r with options := { r.options with dev := true } }
  | .writeConfig =>
    if r.options.writeConfig then .error (.fault (.repeated s.name))
    else .ok { r with options := { r.options with writeConfig := true } }

def long (r : Reading) (name : String) (value : Option (List Char)) : Except Stop Reading :=
  match [Parameter.config, .apiUrl].find? (·.name = name),
      [Switch.dev, .writeConfig, .help, .version].find? (·.name = name) with
  | some p, _ => do
    let r ← r.settle
    match value with
    | some v => r.set p v
    | none => .ok { r with waiting := some (p, none) }
  | none, some s =>
    match value with
    | some v => .error (.fault (.unexpectedValue s (String.ofList v)))
    | none => r.turn s
  | none, none => .error (.fault (.unknown name))

def short (r : Reading) (c : Char) : Except Stop Reading :=
  match c with
  | 'h' => r.turn .help
  | 'V' => r.turn .version
  | c => .error (.fault (.unknown (String.ofList ['-', c])))

def plain (r : Reading) (a : List Char) : Except Stop Reading :=
  match r.waiting with
  | some (p, none) => .ok { r with waiting := some (p, some a) }
  | _ => .error (.fault (.unknown (String.ofList a)))

/-- Reads all arguments. Two dashes alone end what is anything but plain,
and nothing plain may follow. -/
def all (r : Reading) : List (List Char) → Except Stop Options
  | [] => do return (← r.settle).options
  | a :: as =>
    match a with
    | ['-', '-'] =>
      match as with
      | [] => do return (← r.settle).options
      | b :: _ => .error (.fault (.unknown (String.ofList b)))
    | '-' :: '-' :: name =>
      let key := name.takeWhile (· != '=')
      let value := match name.drop key.length with
        | _ :: v => some v
        | [] => none
      do all (← r.long (String.ofList ('-' :: '-' :: key)) value) as
    | '-' :: c :: _ => do all (← r.short c) as
    | a => do all (← r.plain a) as

end Reading

def Options.ofArguments (as : List String) : Except Stop Options :=
  Reading.all ⟨.none, .none⟩ (as.map String.toList)

def helpText : String :=
  "Terminal client for the package marketplace\n\nUsage: pkgmart [OPTIONS]\n\nOptions:\n" ++
  "      --config <CONFIG>    Config file (defaults to <config dir>/pkgmart/config.toml)\n" ++
  "      --api-url <API_URL>  Backend base URL, overriding the config file\n" ++
  "      --dev                Start on the developer page\n" ++
  "      --write-config       Write the effective config to the config path and exit\n" ++
  "  -h, --help               Print help\n" ++
  "  -V, --version            Print version\n"

def versionText : String := "pkgmart 0.1.0\n"

open Journal

/-- What the program is given from outside. -/
structure World (m : Type → Type) where
  files : Access m
  home : Path
  filter : Option String
  now : String

/-- The settings with the arguments before them. -/
def Options.apply (o : Options) (s : Settings) : Settings :=
  { s with
    baseUrl := o.apiUrl.getD s.baseUrl
    startPage := if o.dev then .developer else s.startPage }

inductive Fault where
  | usage (f : UsageFault)
  | store (f : Settings.StoreFault)
  | log (f : LogFault)
  deriving DecidableEq, Repr

inductive Result where
  | said (text : String)
  | failed (f : Fault)
  | ready (s : Settings) (complaints : List String)
  deriving DecidableEq, Repr

variable {m : Type → Type} [Monad m]

def World.path (w : World m) (o : Options) : Path := o.config.getD (Settings.defaultPath w.home)

def settings (w : World m) (o : Options) : m (Except Settings.StoreFault Settings) := do
  return (← Settings.load w.files (w.path o)).map o.apply

def startingNote (l : Log) (s : Settings) : Note :=
  ⟨.info, "pkgmart", "pkgmart starting", [("log", String.ofList l.path), ("api", s.baseUrl)]⟩

def openLog (w : World m) (s : Settings) : m (Except LogFault Unit) := do
  match ← Log.start w.files w.home w.filter s.log none with
  | .error f => return .error f
  | .ok none => return .ok ()
  | .ok (some l) =>
    l.record w.files w.now [startingNote l s]
    return .ok ()

def complaints (w : World m) (s : Settings) : List String :=
  if s.log.enabled then Filter.complaintsOf w.filter s.log.level else []

def perform (w : World m) (o : Options) : m Result := do
  match ← settings w o with
  | .error f => return .failed (.store f)
  | .ok s =>
    if o.writeConfig then
      match ← Settings.save w.files (w.path o) s with
      | .error f => return .failed (.store f)
      | .ok () => return .said ("Wrote " ++ String.ofList (w.path o) ++ "\n")
    else
      match ← openLog w s with
      | .error f => return .failed (.log f)
      | .ok () => return .ready s (complaints w s)

def run (w : World m) (arguments : List String) : m Result :=
  match Options.ofArguments arguments with
  | .error .help => return .said helpText
  | .error .version => return .said versionText
  | .error (.fault f) => return .failed (.usage f)
  | .ok o => perform w o

structure Ending where
  code : UInt8
  output : String
  errors : String
  deriving DecidableEq, Repr

def Result.ending : Result → Ending
  | .said text => ⟨0, text, ""⟩
  | .failed (.usage f) =>
    ⟨2, "", "error: " ++ f.text ++
      "\n\nUsage: pkgmart [OPTIONS]\n\nFor more information, try '--help'.\n"⟩
  | .failed (.store f) => ⟨1, "", "Error: " ++ f.text ++ "\n"⟩
  | .failed (.log f) => ⟨1, "", "Error: " ++ f.text ++ "\n"⟩
  | .ready _ complaints =>
    ⟨1, "", String.join (complaints.map (· ++ "\n")) ++ "Error: no terminal\n"⟩

end PackageMarket.Launch
