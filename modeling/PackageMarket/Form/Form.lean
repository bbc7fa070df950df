import PackageMarket.Decimal.Basic
import PackageMarket.Form.TextField
import PackageMarket.Text.Basic

set_option autoImplicit false

namespace PackageMarket

open Decimal

inductive Rule where
  | integerInRange (min max : Int)
  | exactLength (n : Nat)
  deriving DecidableEq, Repr

inductive Violation where
  | notWhole
  | below (min : Int)
  | outside (min max : Int)
  | wrongLength (n : Nat)
  deriving DecidableEq, Repr

/-- The end of a sentence that the label of the field begins. -/
def Violation.text : Violation → String
  | .notWhole => "must be a whole number"
  | .below min => "must be at least " ++ String.ofList (ofInt min)
  | .outside min max =>
    "must be between " ++ String.ofList (ofInt min) ++ " and " ++ String.ofList (ofInt max)
  | .wrongLength n => "must be exactly " ++ String.ofList (digits n) ++ " characters"

namespace Rule

def positiveInteger : Rule := .integerInRange 1 int64Max

/-- How a value breaks the rule, if it does. An upper bound that all
integers keep is not mentioned. -/
def check : Rule → List Char → Option Violation
  | .integerInRange min max, s =>
    match int64? s with
    | none => some .notWhole
    | some n =>
      if n < min || max < n then
        some (if max = int64Max then .below min else .outside min max)
      else none
  | .exactLength n, s => if s.length = n then none else some (.wrongLength n)

end Rule

open Text

structure FieldRule where
  field : String
  rule : Rule
  deriving DecidableEq, Repr

structure Form where
  fields : List TextField
  focus : Nat
  hasErrors : Bool
  errors : List String
  deriving DecidableEq, Repr

namespace Form

def ofFields (fields : List TextField) : Form := ⟨fields, 0, false, []⟩

variable (f : Form)

def focused? : Option TextField := f.fields[f.focus]?

def editFocused (edit : TextField → TextField) : Form :=
  { f with fields := f.fields.modify f.focus edit }

def focusNext : Form :=
  if f.fields.isEmpty then f else { f with focus := (f.focus + 1) % f.fields.length }

def focusPrev : Form :=
  if f.fields.isEmpty then f
  else { f with focus := (f.focus + f.fields.length - 1) % f.fields.length }

def field? (name : String) : Option TextField := f.fields.find? (·.name = name)

def editFirst (name : String) (edit : TextField → TextField) : List TextField → List TextField
  | [] => []
  | g :: gs => if g.name = name then edit g :: gs else g :: editFirst name edit gs

def editField (name : String) (edit : TextField → TextField) : Form :=
  { f with fields := editFirst name edit f.fields }

/-- The text of a field without blanks at its ends; nothing for a field that does not exist. -/
def value (name : String) : List Char := ((f.field? name).map fun g => trim g.text).getD []

def integer? (name : String) : Option Int := Decimal.int64? (f.value name)

def label (name : String) : String := ((f.field? name).map (·.label)).getD name

def violations (rules : List FieldRule) : List String :=
  rules.filterMap fun r =>
    (r.rule.check (f.value r.field)).map fun v => f.label r.field ++ " " ++ v.text

def validate (rules : List FieldRule) : Form :=
  let errors := f.violations rules
  { f with errors, hasErrors := !errors.isEmpty }

end Form
end PackageMarket
