import PackageMarket.Json.Value
import PackageMarket.Text.Basic
import PackageMarket.Text.Quoted

set_option autoImplicit false

/-!
What is wrong with a text that should hold JSON, and where. A place is kept as the number of bytes
from there to the end of the text, which does not depend on what came before.
-/

namespace PackageMarket.Json

open Text

inductive Cause where
  | endInList
  | endInObject
  | endInString
  | endInValue
  | expectedColon
  | expectedListCommaOrEnd
  | expectedObjectCommaOrEnd
  | expectedIdent
  | expectedValue
  | invalidEscape
  | invalidNumber
  | numberOutOfRange
  | loneSurrogate
  | endOfHexEscape
  | controlCharacter
  | keyNotString
  | trailingComma
  | trailingCharacters
  | tooDeep
  | wrongType (found : Value) (expected : String)
  | wrongInteger (n : Int) (expected : String)
  | duplicateField (name : String)
  | unknownVariant (name : List Char) (known : List String)
  deriving DecidableEq

/-- Either no continuation mends the text, or some does, or the text is JSON of another shape. -/
inductive Category where
  | malformed
  | unfinished
  | shape
  deriving DecidableEq, Repr

def Cause.category : Cause → Category
  | .endInList | .endInObject | .endInString | .endInValue => .unfinished
  | .wrongType _ _ | .wrongInteger _ _ | .duplicateField _ | .unknownVariant _ _ => .shape
  | _ => .malformed

def Value.described : Value → List Char
  | .null => "null".toList
  | .bool b => "boolean `".toList ++ (if b then "true" else "false").toList ++ "`".toList
  | .number (.int n) => "integer `".toList ++ Decimal.ofInt n ++ "`".toList
  | .number (.float x) => "floating point `".toList ++ x.format ++ "`".toList
  | .string s => "string ".toList ++ spell s.toList
  | .array _ => "sequence".toList
  | .object _ => "map".toList

def oneOf : List String → String
  | [] => "there are no variants"
  | [a] => "expected `" ++ a ++ "`"
  | [a, b] => "expected `" ++ a ++ "` or `" ++ b ++ "`"
  | names => "expected one of " ++ String.intercalate ", " (names.map fun n => "`" ++ n ++ "`")

def Cause.text : Cause → String
  | .endInList => "EOF while parsing a list"
  | .endInObject => "EOF while parsing an object"
  | .endInString => "EOF while parsing a string"
  | .endInValue => "EOF while parsing a value"
  | .expectedColon => "expected `:`"
  | .expectedListCommaOrEnd => "expected `,` or `]`"
  | .expectedObjectCommaOrEnd => "expected `,` or `\x7d`"
  | .expectedIdent => "expected ident"
  | .expectedValue => "expected value"
  | .invalidEscape => "invalid escape"
  | .invalidNumber => "invalid number"
  | .numberOutOfRange => "number out of range"
  | .loneSurrogate => "lone leading surrogate in hex escape"
  | .endOfHexEscape => "unexpected end of hex escape"
  | .controlCharacter => "control character (\\u0000-\\u001F) found while parsing a string"
  | .keyNotString => "key must be a string"
  | .trailingComma => "trailing comma"
  | .trailingCharacters => "trailing characters"
  | .tooDeep => "recursion limit exceeded"
  | .wrongType found expected =>
    "invalid type: " ++ String.ofList found.described ++ ", expected " ++ expected
  | .wrongInteger n expected =>
    "invalid value: integer `" ++ String.ofList (Decimal.ofInt n) ++ "`, expected " ++ expected
  | .duplicateField name => "duplicate field `" ++ name ++ "`"
  | .unknownVariant name known =>
    "unknown variant `" ++ String.ofList name ++ "`, " ++ oneOf known

structure Fault where
  cause : Cause
  left : Nat
  deriving DecidableEq

instance decidableEqExcept {ε α : Type} [DecidableEq ε] [DecidableEq α] : DecidableEq (Except ε α)
  | .ok a, .ok b => decidable_of_iff (a = b) (by simp)
  | .error e, .error f => decidable_of_iff (e = f) (by simp)
  | .ok _, .error _ | .error _, .ok _ => isFalse nofun

namespace Fault

/-- The fault is known when `rest` is still to be read. -/
def before (cause : Cause) (rest : List Char) : Fault := ⟨cause, size rest⟩

/-- The fault lies in the next byte of `rest`, if there is one. -/
def inNext (cause : Cause) (rest : List Char) : Fault := ⟨cause, size rest - 1⟩

end Fault

/-- The line, from 1, and the bytes of it among the first `n` bytes of a text. -/
def position (n : Nat) (s : List Char) : Nat × Nat :=
  go 1 0 n s
where
  go (line column : Nat) (n : Nat) : List Char → Nat × Nat
    | [] => (line, column)
    | c :: s =>
      if n < c.utf8Size then (line, column + n)
      else if c = '\n' then go (line + 1) 0 (n - 1) s
      else go line (column + c.utf8Size) (n - c.utf8Size) s

def Fault.message (f : Fault) (text : List Char) : String :=
  let (line, column) := position (size text - f.left) text
  f.cause.text ++ " at line " ++ toString line ++ " column " ++ toString column

end PackageMarket.Json
