import ServiceTrust.Json.Basic
import ServiceTrust.Text.Digit

/-!
Checking a document against the shape that a value needs. A check reports every problem that it
finds, each with its place: the fields of an object in the order of the type, the items of a list
and the members of a table in the order of the document.
-/
namespace ServiceTrust.Schema

/-- One step on the way from the whole document to a part of it. -/
inductive Step where
  | name (s : Json.Text)
  | index (n : Nat)
  deriving DecidableEq, Repr

inductive Problem.Kind where
  | missing
  | stringType
  | stringUnicode
  | stringTooShort (least : Nat)
  | listType
  | dictType
  | modelType (model : String)
  | enumeration (choices : List String)
  | literal (choices : List String)
  | intType
  | intParsing
  | intParsingSize
  | intFromFloat
  | finiteNumber
  | boolParsing
  | value (message : String)
  | frozen
  deriving DecidableEq, Repr

/-- The short name of a kind of problem. -/
def Problem.Kind.label : Problem.Kind → String
  | missing => "missing"
  | stringType => "string_type"
  | stringUnicode => "string_unicode"
  | stringTooShort _ => "string_too_short"
  | listType => "list_type"
  | dictType => "dict_type"
  | modelType _ => "model_type"
  | enumeration _ => "enum"
  | literal _ => "literal_error"
  | intType => "int_type"
  | intParsing => "int_parsing"
  | intParsingSize => "int_parsing_size"
  | intFromFloat => "int_from_float"
  | finiteNumber => "finite_number"
  | boolParsing => "bool_parsing"
  | value _ => "value_error"
  | frozen => "frozen_instance"

/-- Choices as a message lists them: `'a', 'b' or 'c'`. -/
def listChoices : List String → String
  | [] => ""
  | [c] => s!"'{c}'"
  | [c, d] => s!"'{c}' or '{d}'"
  | c :: cs => s!"'{c}', " ++ listChoices cs

/-- The ending of a noun after the count `n`. -/
def pluralEnding (n : Nat) : String := if n = 1 then "" else "s"

def Problem.Kind.message : Problem.Kind → String
  | missing => "Field required"
  | stringType => "Input should be a valid string"
  | stringUnicode =>
    "Input should be a valid string, unable to parse raw data as a unicode string"
  | stringTooShort least =>
    s!"String should have at least {least} character{pluralEnding least}"
  | listType => "Input should be a valid list"
  | dictType => "Input should be a valid dictionary"
  | modelType model => s!"Input should be a valid dictionary or instance of {model}"
  | enumeration choices => "Input should be " ++ listChoices choices
  | literal choices => "Input should be " ++ listChoices choices
  | intType => "Input should be a valid integer"
  | intParsing => "Input should be a valid integer, unable to parse string as an integer"
  | intParsingSize => "Unable to parse input string as an integer, exceeded maximum size"
  | intFromFloat => "Input should be a valid integer, got a number with a fractional part"
  | finiteNumber => "Input should be a finite number"
  | boolParsing => "Input should be a valid boolean, unable to interpret input"
  | value message => "Value error, " ++ message
  | frozen => "Instance is frozen"

structure Problem where
  place : List Step
  kind : Problem.Kind
  deriving DecidableEq, Repr

/-- Problems of one value of the type `model`. -/
structure Fault where
  model : String
  problems : List Problem
  deriving DecidableEq, Repr

def Fault.message (f : Fault) : String :=
  let n := f.problems.length
  s!"{n} validation error{pluralEnding n} for {f.model}"

/-- The outcome of a check: a value, or every problem found. -/
inductive Checked (α : Type) where
  | valid (a : α)
  | invalid (problems : List Problem)

namespace Checked

def problem (kind : Problem.Kind) : Checked α := .invalid [⟨[], kind⟩]

def map (f : α → β) : Checked α → Checked β
  | valid a => valid (f a)
  | invalid ps => invalid ps

/-- Both outcomes, with the problems of the first before those of the second. -/
def ap (f : Checked (α → β)) (a : Checked α) : Checked β :=
  match f, a with
  | valid f, valid a => valid (f a)
  | valid _, invalid ps => invalid ps
  | invalid ps, valid _ => invalid ps
  | invalid ps, invalid qs => invalid (ps ++ qs)

/-- A further check of a value that passed the first. -/
def andThen (a : Checked α) (f : α → Checked β) : Checked β :=
  match a with
  | valid a => f a
  | invalid ps => invalid ps

/-- The outcome for a part, seen from the whole. -/
def inside (s : Step) : Checked α → Checked α
  | valid a => valid a
  | invalid ps => invalid (ps.map fun p => { p with place := s :: p.place })

def toExcept (model : String) : Checked α → Except Fault α
  | valid a => .ok a
  | invalid ps => .error ⟨model, ps⟩

end Checked

open Checked

/-- A check of one document. -/
abbrev Check (α : Type) := Json → Checked α

def string : Check String
  | .str (.unicode s) => valid s
  | .str (.unpaired _) => problem .stringUnicode
  | _ => problem .stringType

def nonEmptyString : Check String := fun j =>
  (string j).andThen fun s => if s.isEmpty then problem (.stringTooShort 1) else valid s

/-- A null, or a value that passes `check`. -/
def nullable (check : Check α) : Check (Option α)
  | .null => valid none
  | j => (check j).map some

def itemsFrom (check : Check α) (n : Nat) : List Json → Checked (List α)
  | [] => valid []
  | j :: js => (((check j).inside (.index n)).map List.cons).ap (itemsFrom check (n + 1) js)

def list (check : Check α) : Check (List α)
  | .arr js => itemsFrom check 0 js
  | _ => problem .listType

def tableName : Json.Text → Checked String
  | .unicode s => valid s
  | .unpaired codes =>
    (problem .stringUnicode).inside (.name (.unpaired codes)) |>.inside (.name "[key]")

def tableOf (check : Check α) : List (Json.Text × Json) → Checked (List (String × α))
  | [] => valid []
  | (name, j) :: ms =>
    (((tableName name).map Prod.mk).ap ((check j).inside (.name name)) |>.map List.cons).ap
      (tableOf check ms)

/-- An object of any member names. -/
def table (check : Check α) : Check (List (String × α))
  | .obj ms => tableOf check ms
  | _ => problem .dictType

/-- The field `name` of the object `j`, which stands for `absent` where it is missing. -/
def fieldOr (name : String) (absent : Checked α) (check : Check α) (j : Json) : Checked α :=
  match j.get? name with
  | some v => (check v).inside (.name name)
  | none => absent

def field (name : String) (check : Check α) (j : Json) : Checked α :=
  fieldOr name ((problem .missing).inside (.name name)) check j

/-- An object that holds a value of the type `model`. -/
def object (model : String) (check : Check α) : Check α
  | .obj ms => check (.obj ms)
  | _ => problem (.modelType model)

/-- One of a list of texts. -/
def oneOf (choices : List (String × α)) : Check α := fun j =>
  match j with
  | .str (.unicode s) =>
    match choices.lookup s with
    | some a => valid a
    | none => problem (.enumeration (choices.map (·.1)))
  | _ => problem (.enumeration (choices.map (·.1)))

/-- Digits with single underscores between them. -/
def groupedDigits? : List Char → Option (List Char)
  | [] => none
  | [c] => if c.isDigit then some [c] else none
  | c :: '_' :: cs => if c.isDigit then (groupedDigits? cs).map (c :: ·) else none
  | c :: cs => if c.isDigit then (groupedDigits? cs).map (c :: ·) else none

/-- White space around a number: the Unicode class. -/
def isNumberBlank (c : Char) : Bool :=
  let n := c.toNat
  (9 ≤ n && n ≤ 13) || n == 32 || n == 0x85 || n == 0xa0 || n == 0x1680 ||
    (0x2000 ≤ n && n ≤ 0x200a) || n == 0x2028 || n == 0x2029 || n == 0x202f || n == 0x205f ||
    n == 0x3000

/-- A whole number as a text writes it: a sign, grouped digits, and a fraction of zeros. -/
def intText? (cs : List Char) : Option Int :=
  let (negative, cs) := match cs with
    | '-' :: cs => (true, cs)
    | '+' :: cs => (false, cs)
    | _ => (false, cs)
  let whole := cs.takeWhile (· ≠ '.')
  let fraction := cs.drop whole.length
  let zeros := fraction.drop 1
  if !fraction.isEmpty && (zeros.isEmpty || zeros.any (· ≠ '0')) then none
  else
    (groupedDigits? whole).map fun ds =>
      let n : Int := Text.positional (ds.map fun c => c.toNat - '0'.toNat)
      if negative then -n else n

/-- A whole number, given as such, as a truth value, as a number without a fraction, or as a
text. -/
def int : Check Int
  | .int n => valid n
  | .bool b => valid (if b then 1 else 0)
  | .float x =>
    if !x.isFinite then problem .finiteNumber
    else
      match x.toInt? with
      | none => problem .intFromFloat
      | some n => if n.natAbs < 1 <<< 63 then valid n else problem .intParsingSize
  | .str (.unicode s) =>
    if Text.maxDigits < s.utf8ByteSize then problem .intParsingSize
    else
      match intText? ((s.toList.dropWhile isNumberBlank).reverse.dropWhile isNumberBlank).reverse with
      | some n => valid n
      | none => problem .intParsing
  | .str (.unpaired _) => problem .stringUnicode
  | _ => problem .intType

end ServiceTrust.Schema
