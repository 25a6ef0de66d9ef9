import ServiceTrust.Settings.Environment
import ServiceTrust.Text.Blank
import ServiceTrust.Text.Lines

/-!
Assignments from a file of lines `NAME=value`. Values may be quoted, and may refer to names that
are set before them. Lines that are no assignments are passed over.
-/
namespace ServiceTrust.EnvFile

/-- White space that does not end the line. -/
def isGap (c : Char) : Bool := Text.isBlank c && c ≠ '\n'

/-- A name, with its value if one is assigned to it. -/
structure Binding where
  name : String
  value : Option String
  deriving DecidableEq, Repr

/-- What follows the word `export`, if `cs` starts with it. -/
def dropExport (cs : List Char) : List Char :=
  match cs with
  | 'e' :: 'x' :: 'p' :: 'o' :: 'r' :: 't' :: c :: rest =>
    if isGap c then rest.dropWhile isGap else cs
  | _ => cs

def isNameChar (c : Char) : Bool := !(Text.isBlank c || c = '=' || c = '#')

/-- A name, in apostrophes or plain, and what follows it. -/
def name? (cs : List Char) : Option (String × List Char) :=
  match cs with
  | '\'' :: rest =>
    let name := rest.takeWhile (· ≠ '\'')
    match rest.drop name.length with
    | _ :: after => if name.isEmpty then none else some (.ofList name, after)
    | [] => none
  | _ =>
    let name := cs.takeWhile isNameChar
    if name.isEmpty then none else some (.ofList name, cs.drop name.length)

/-- Splits `cs` at the first `quote` that no backslash precedes. -/
def splitAtQuote (quote : Char) (escaped : Bool) : List Char → Option (List Char × List Char)
  | [] => none
  | c :: cs =>
    if c = quote && !escaped then some ([], cs)
    else (splitAtQuote quote (c = '\\') cs).map fun (v, rest) => (c :: v, rest)

/-- Splits `cs` at the last `quote`. -/
def splitAtLastQuote (quote : Char) : List Char → Option (List Char × List Char)
  | [] => none
  | c :: cs =>
    match splitAtLastQuote quote cs with
    | some (v, rest) => some (c :: v, rest)
    | none => if c = quote then some ([], cs) else none

/-- Characters that a backslash stands before, with what the two stand for. -/
abbrev Escapes := List (Char × Char)

def apostropheEscapes : Escapes := [('\\', '\\'), ('\'', '\'')]

def doubleQuoteEscapes : Escapes :=
  [('\\', '\\'), ('\'', '\''), ('"', '"'), ('a', '\x07'), ('b', '\x08'), ('f', '\x0c'),
    ('n', '\n'), ('r', '\r'), ('t', '\t'), ('v', '\x0b')]

def unescape (escapes : Escapes) : List Char → List Char
  | '\\' :: c :: cs =>
    match escapes.lookup c with
    | some d => d :: unescape escapes cs
    | none => '\\' :: unescape escapes (c :: cs)
  | c :: cs => c :: unescape escapes cs
  | [] => []

/-- The part of a line before a number sign that white space precedes. -/
def beforeComment (afterBlank : Bool) : List Char → List Char
  | [] => []
  | c :: cs =>
    if c = '#' && afterBlank then [] else c :: beforeComment (Text.isBlank c) cs

/-- The value at the start of `cs` and what follows it. The quote that ends a value is the first
one that no backslash precedes, or else the last one; a plain value goes to the end of its line
or to a comment. -/
def value? (cs : List Char) : Option (List Char × List Char) :=
  let quotedBy (quote : Char) (escapes : Escapes) (rest : List Char) :=
    (splitAtQuote quote false rest <|> splitAtLastQuote quote rest).map fun (v, after) =>
      (unescape escapes v, after)
  match cs with
  | '\'' :: rest => quotedBy '\'' apostropheEscapes rest
  | '"' :: rest => quotedBy '"' doubleQuoteEscapes rest
  | _ =>
    let line := cs.takeWhile (· ≠ '\n')
    some (Text.dropEndWhile Text.isBlank (beforeComment false line), cs.drop line.length)

/-- What follows the end of the line, if nothing but white space and a comment stand before it. -/
def lineEnd? (cs : List Char) : Option (List Char) :=
  let gapless := cs.dropWhile isGap
  match if gapless.head? = some '#' then gapless.dropWhile (· ≠ '\n') else gapless with
  | [] => some []
  | '\n' :: rest => some rest
  | _ => none

def restOfLines (cs : List Char) : List Char := (cs.dropWhile (· ≠ '\n')).drop 1

/-- The assignment at the start of `cs`, if there is one, and what follows its line, or the line
that is no assignment. -/
def binding (cs : List Char) : Option Binding × List Char :=
  let cs := dropExport (cs.dropWhile Text.isBlank)
  if cs.head? = some '#' then (none, restOfLines cs)
  else
    match name? cs with
    | none => (none, restOfLines cs)
    | some (name, rest) =>
      let (value, rest) :=
        match rest.dropWhile isGap with
        | '=' :: assigned =>
          match value? (assigned.dropWhile isGap) with
          | some (value, rest) => (some (some (String.ofList value)), rest)
          | none => (none, assigned)
        | rest => (some none, rest)
      match value, lineEnd? rest with
      | some value, some rest => (some ⟨name, value⟩, rest)
      | _, _ => (none, restOfLines rest)

/-- All assignments of a text without carriage returns. -/
def bindings (cs : List Char) : List Binding :=
  let (b, rest) := binding cs
  if rest.length < cs.length then b.toList ++ bindings rest else b.toList
termination_by cs.length

/-- A reference to a name, with what stands for it where the name is not set. -/
structure Reference where
  name : String
  absent : String
  width : Nat

/-- The reference `${name}` or `${name:-absent}` at the start of `cs`. -/
def reference? : List Char → Option Reference
  | '$' :: '{' :: cs =>
    let name := cs.takeWhile fun c => c ≠ '}' && c ≠ ':'
    match cs.drop name.length with
    | '}' :: _ => some ⟨.ofList name, "", name.length + 3⟩
    | ':' :: '-' :: rest =>
      let absent := rest.takeWhile (· ≠ '}')
      if absent.length < rest.length then
        some ⟨.ofList name, .ofList absent, name.length + absent.length + 5⟩
      else none
    | _ => none
  | _ => none

/-- `cs` with values in place of references; `skip` counts characters of a reference that is
already replaced. -/
def expand (valueOf : Reference → String) (skip : Nat) : List Char → List Char
  | [] => []
  | c :: cs =>
    match skip with
    | skip + 1 => expand valueOf skip cs
    | 0 =>
      match reference? (c :: cs) with
      | some r => (valueOf r).toList ++ expand valueOf (r.width - 1) cs
      | none => c :: expand valueOf 0 cs

/-- The text that a reference stands for: the value that the file gave the name before, then the
one of the environment. -/
def valueOf (env : Environment) (before : List (String × Option String)) (r : Reference) :
    String :=
  match before.lookup r.name with
  | some value => value.getD ""
  | none => (env.lookup r.name).getD r.absent

/-- Assigns one after another, over what is assigned already. -/
def assign (env : Environment) (before : List (String × Option String)) (b : Binding) :
    List (String × Option String) :=
  Environment.set b.name
    (b.value.map fun v => .ofList (expand (valueOf env before) 0 v.toList)) before

/-- The names that a text assigns to, in the order in which they first appear. -/
def read (env : Environment) (text : String) : List (String × Option String) :=
  (bindings (Text.plainNewlines text.toList)).foldl (assign env) []

end ServiceTrust.EnvFile
