import ServiceTrust.Json.Basic
import ServiceTrust.Text.Digit

/-!
Reading a document from its text. The reader keeps the number of characters before the point it
stands at, since every fault names a line, a column and that number.
-/
namespace ServiceTrust.Json

/-- What the reader expected or could not take. -/
inductive Fault.Kind where
  | byteOrderMark
  | expectingValue
  | expectingName
  | expectingColon
  | expectingComma
  | extraData
  | unterminatedString
  | controlCharacter
  | badEscape
  | badUnicodeEscape
  deriving DecidableEq, Repr

def Fault.Kind.message : Fault.Kind → String
  | byteOrderMark => "Unexpected UTF-8 BOM (decode using utf-8-sig)"
  | expectingValue => "Expecting value"
  | expectingName => "Expecting property name enclosed in double quotes"
  | expectingColon => "Expecting ':' delimiter"
  | expectingComma => "Expecting ',' delimiter"
  | extraData => "Extra data"
  | unterminatedString => "Unterminated string starting at"
  | controlCharacter => "Invalid control character at"
  | badEscape => "Invalid \\escape"
  | badUnicodeEscape => "Invalid \\uXXXX escape"

/-- A fault at a place of the text. -/
structure SyntaxFault where
  kind : Fault.Kind
  line : Nat
  column : Nat
  offset : Nat
  deriving DecidableEq, Repr

def SyntaxFault.message (f : SyntaxFault) : String :=
  s!"{f.kind.message}: line {f.line} column {f.column} (char {f.offset})"

/-- Why a text gives no document: it is none, or it goes beyond what is taken. -/
inductive Fault where
  | grammar (fault : SyntaxFault)
  | tooManyDigits (count : Nat)
  | tooDeep (isArray : Bool)
  deriving DecidableEq, Repr

def tooManyDigitsMessage (count : Nat) : String :=
  s!"Exceeds the limit ({Text.maxDigits} digits) for integer string conversion: value has " ++
    s!"{count} digits; use sys.set_int_max_str_digits() to increase the limit"

def Fault.message : Fault → String
  | grammar f => f.message
  | tooManyDigits count => tooManyDigitsMessage count
  | tooDeep isArray =>
    "maximum recursion depth exceeded while decoding a JSON " ++
      (if isArray then "array" else "object") ++ " from a unicode string"

namespace Reader

/-- Why reading stopped: a fault at an offset, or a limit. -/
inductive Stop where
  | at (kind : Fault.Kind) (offset : Nat)
  | digits (count : Nat)
  | depth (isArray : Bool)

/-- A value read, the offset after it and the characters that follow. -/
abbrev At (α : Type) := α × Nat × List Char

def isSpace (c : Char) : Bool := c = ' ' || c = '\t' || c = '\n' || c = '\r'

/-- Passes over blanks. -/
def skip (offset : Nat) : List Char → Nat × List Char
  | c :: cs => if isSpace c then skip (offset + 1) cs else (offset, c :: cs)
  | [] => (offset, [])

def hexValue? (c : Char) : Option Nat :=
  if '0' ≤ c && c ≤ '9' then some (c.toNat - '0'.toNat)
  else if 'a' ≤ c && c ≤ 'f' then some (c.toNat - 'a'.toNat + 10)
  else if 'A' ≤ c && c ≤ 'F' then some (c.toNat - 'A'.toNat + 10)
  else none

/-- The number that exactly four hexadecimal digits write. -/
def hex4? : List Char → Option Nat
  | [a, b, c, d] => do
    let a ← hexValue? a
    let b ← hexValue? b
    let c ← hexValue? c
    let d ← hexValue? d
    return ((a * 16 + b) * 16 + c) * 16 + d
  | _ => none

def isHighSurrogate (n : Nat) : Bool := 0xd800 ≤ n && n ≤ 0xdbff

def isLowSurrogate (n : Nat) : Bool := 0xdc00 ≤ n && n ≤ 0xdfff

/-- The code point after `\u`, of which the first of `cs` is the `u` at `offset`, and the number of
characters that it takes from that `u` on. A high surrogate takes a low one that follows with it.
Escapes must leave at least one character of the text. -/
def unicodeEscape (offset : Nat) (cs : List Char) : Except Stop (Nat × Nat) :=
  if (cs.drop 5).isEmpty then .error (.at .badUnicodeEscape offset)
  else
    match hex4? ((cs.drop 1).take 4) with
    | none => .error (.at .badUnicodeEscape offset)
    | some high =>
      if isHighSurrogate high && !(cs.drop 11).isEmpty && (cs.drop 5).take 2 = ['\\', 'u'] then
        match hex4? ((cs.drop 7).take 4) with
        | none => .error (.at .badUnicodeEscape (offset + 6))
        | some low =>
          if isLowSurrogate low then
            .ok (0x10000 + (high - 0xd800) * 0x400 + (low - 0xdc00), 11)
          else .ok (high, 5)
      else .ok (high, 5)

def simpleEscape? (c : Char) : Option Char :=
  match c with
  | '"' => some '"'
  | '\\' => some '\\'
  | '/' => some '/'
  | 'b' => some '\x08'
  | 'f' => some '\x0c'
  | 'n' => some '\n'
  | 'r' => some '\r'
  | 't' => some '\t'
  | _ => none

def textOfCodes (codes : List Nat) : Text :=
  if codes.any fun n => 0xd800 ≤ n && n ≤ 0xdfff then .unpaired codes
  else .unicode (.ofList (codes.map Char.ofNat))

/-- The rest of a string whose opening quote stands at `start`; `codes` holds what was read, last
first, and `pass` counts characters that an escape already took. -/
def stringFrom (start : Nat) (codes : List Nat) (offset pass : Nat) :
    List Char → Except Stop (At Text)
  | [] => .error (.at .unterminatedString start)
  | c :: cs =>
    match pass with
    | pass + 1 => stringFrom start codes (offset + 1) pass cs
    | 0 =>
      if c = '"' then .ok (textOfCodes codes.reverse, offset + 1, cs)
      else if c = '\\' then
        match cs with
        | [] => .error (.at .unterminatedString start)
        | e :: _ =>
          if e = 'u' then
            match unicodeEscape (offset + 1) cs with
            | .error stop => .error stop
            | .ok (code, taken) => stringFrom start (code :: codes) (offset + 1) taken cs
          else
            match simpleEscape? e with
            | none => .error (.at .badEscape offset)
            | some plain => stringFrom start (plain.toNat :: codes) (offset + 1) 1 cs
      else if c.toNat ≤ 0x1f then .error (.at .controlCharacter offset)
      else stringFrom start (c.toNat :: codes) (offset + 1) 0 cs

/-- A number: its sign, its digits, and the digits of fraction and exponent if it has them. -/
def number (offset : Nat) (cs : List Char) : Except Stop (At Json) := do
  let (negative, body) := match cs with
    | '-' :: rest => (true, rest)
    | _ => (false, cs)
  let whole := match body with
    | '0' :: _ => ['0']
    | _ => body.takeWhile Char.isDigit
  if whole.isEmpty then throw (.at .expectingValue offset)
  let rest := body.drop whole.length
  let fraction := match rest with
    | '.' :: more => more.takeWhile Char.isDigit
    | _ => []
  let rest := if fraction.isEmpty then rest else rest.drop (fraction.length + 1)
  let (signs, power) := match rest with
    | e :: more =>
      if e = 'e' || e = 'E' then
        match more with
        | '-' :: digits => (['e', '-'], digits.takeWhile Char.isDigit)
        | '+' :: digits => (['e', '+'], digits.takeWhile Char.isDigit)
        | digits => (['e'], digits.takeWhile Char.isDigit)
      else ([], [])
    | [] => ([], [])
  let rest := if power.isEmpty then rest else rest.drop (signs.length + power.length)
  let after := offset + (if negative then 1 else 0) + whole.length +
    (if fraction.isEmpty then 0 else fraction.length + 1) +
    (if power.isEmpty then 0 else signs.length + power.length)
  if fraction.isEmpty && power.isEmpty then
    if Text.maxDigits < whole.length then throw (.digits whole.length)
    let n : Int := Text.digitsValue whole
    return (.int (if negative then -n else n), after, rest)
  else
    let e : Int := Text.digitsValue power
    let exponent := (if signs = ['e', '-'] then -e else e) - fraction.length
    return (.float (.ofDecimal negative (Text.digitsValue (whole ++ fraction)) exponent), after, rest)

/-- A value that is a fixed word. -/
def constant? (cs : List Char) : Option (Json × Nat) :=
  let words : List (String × Json) := [("null", .null), ("true", .bool true), ("false", .bool false),
    ("NaN", .float .nan), ("Infinity", .float (.infinite false)),
    ("-Infinity", .float (.infinite true))]
  (words.find? fun (w, _) => w.toList.isPrefixOf cs).map fun (w, j) => (j, w.length)

/-- Lists and objects may be nested this deep. -/
def maxDepth : Nat := 984

mutual

/-- A value at `offset`, inside of `depth` lists and objects. -/
def value (fuel depth offset : Nat) (cs : List Char) : Except Stop (At Json) :=
  match fuel with
  | 0 => .error (.at .expectingValue offset)
  | fuel + 1 =>
    match cs with
    | [] => .error (.at .expectingValue offset)
    | '"' :: rest =>
      (stringFrom offset [] (offset + 1) 0 rest).map fun (s, more) => (.str s, more)
    | '{' :: rest =>
      if maxDepth ≤ depth then .error (.depth false)
      else
        match skip (offset + 1) rest with
        | (offset, '}' :: rest) => .ok (.obj [], offset + 1, rest)
        | (offset, rest) => members fuel (depth + 1) offset [] rest
    | '[' :: rest =>
      if maxDepth ≤ depth then .error (.depth true)
      else
        match skip (offset + 1) rest with
        | (offset, ']' :: rest) => .ok (.arr [], offset + 1, rest)
        | (offset, rest) => items fuel (depth + 1) offset [] rest
    | _ =>
      match constant? cs with
      | some (j, taken) => .ok (j, offset + taken, cs.drop taken)
      | none => number offset cs

/-- The items of a list from one on; `done` holds those before it, last first. -/
def items (fuel depth offset : Nat) (done : List Json) (cs : List Char) : Except Stop (At Json) :=
  match fuel with
  | 0 => .error (.at .expectingValue offset)
  | fuel + 1 => do
    let (j, offset, cs) ← value fuel depth offset cs
    match skip offset cs with
    | (offset, ']' :: cs) => .ok (.arr (j :: done).reverse, offset + 1, cs)
    | (offset, ',' :: cs) =>
      let (offset, cs) := skip (offset + 1) cs
      items fuel depth offset (j :: done) cs
    | (offset, _) => .error (.at .expectingComma offset)

/-- The members of an object from one on; `done` holds those before it, last first. -/
def members (fuel depth offset : Nat) (done : List (Text × Json)) (cs : List Char) :
    Except Stop (At Json) :=
  match fuel with
  | 0 => .error (.at .expectingValue offset)
  | fuel + 1 =>
    match cs with
    | '"' :: cs => do
      let (name, offset, cs) ← stringFrom offset [] (offset + 1) 0 cs
      match skip offset cs with
      | (offset, ':' :: cs) =>
        let (offset, cs) := skip (offset + 1) cs
        let (j, offset, cs) ← value fuel depth offset cs
        match skip offset cs with
        | (offset, '}' :: cs) => .ok (objOfList ((name, j) :: done).reverse, offset + 1, cs)
        | (offset, ',' :: cs) =>
          let (offset, cs) := skip (offset + 1) cs
          members fuel depth offset ((name, j) :: done) cs
        | (offset, _) => .error (.at .expectingComma offset)
      | (offset, _) => .error (.at .expectingColon offset)
    | _ => .error (.at .expectingName offset)

end

/-- The fault of a stop in the text `cs`, with its line and column. -/
def Stop.fault (cs : List Char) : Stop → Fault
  | .at kind offset =>
    let before := cs.take offset
    .grammar ⟨kind, before.count '\n' + 1, (before.reverse.takeWhile (· ≠ '\n')).length + 1, offset⟩
  | .digits count => .tooManyDigits count
  | .depth isArray => .tooDeep isArray

/-- The one document that the characters write. -/
def document (cs : List Char) : Except Stop Json :=
  if cs.head? = some '\ufeff' then .error (.at .byteOrderMark 0)
  else do
    let (offset, rest) := skip 0 cs
    let (j, offset, rest) ← value (2 * cs.length + 2) 0 offset rest
    match skip offset rest with
    | (_, []) => return j
    | (offset, _) => throw (.at .extraData offset)

end Reader

def read (s : String) : Except Fault Json :=
  match Reader.document s.toList with
  | .ok j => .ok j
  | .error stop => .error (stop.fault s.toList)

end ServiceTrust.Json
