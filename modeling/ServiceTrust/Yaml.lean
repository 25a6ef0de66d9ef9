import ServiceTrust.Json.Basic
import ServiceTrust.Text.Blank

/-!
Documents of indented lines, as cluster configurations are written: block and flow collections,
plain and quoted scalars on one line, and comments.
-/
namespace ServiceTrust.Yaml

/-! ## Scalars -/

def isGap (c : Char) : Bool := c = ' ' || c = '\t'

/-- What a plain scalar stands for. -/
def plain (cs : List Char) : Json :=
  let s := String.ofList cs
  if s.isEmpty || s = "~" || s = "null" || s = "Null" || s = "NULL" then .null
  else if ["true", "True", "TRUE", "yes", "Yes", "YES", "on", "On", "ON"].contains s then
    .bool true
  else if ["false", "False", "FALSE", "no", "No", "NO", "off", "Off", "OFF"].contains s then
    .bool false
  else
    match s.toInt? with
    | some n => if s.any (· = '_') then .text s else .int n
    | none => .text s

/-- The rest of a text in apostrophes, where two of them stand for one. -/
def apostrophes : List Char → Option (List Char × List Char)
  | '\'' :: '\'' :: cs => (apostrophes cs).map fun (v, rest) => ('\'' :: v, rest)
  | '\'' :: cs => some ([], cs)
  | c :: cs => (apostrophes cs).map fun (v, rest) => (c :: v, rest)
  | [] => none

def escapes : List (Char × Char) :=
  [('0', '\x00'), ('a', '\x07'), ('b', '\x08'), ('t', '\t'), ('n', '\n'), ('v', '\x0b'),
    ('f', '\x0c'), ('r', '\r'), ('e', '\x1b'), (' ', ' '), ('"', '"'), ('/', '/'), ('\\', '\\')]

/-- The rest of a text in double quotes. -/
def doubleQuotes : List Char → Option (List Char × List Char)
  | '"' :: cs => some ([], cs)
  | '\\' :: c :: cs => do
    let d ← escapes.lookup c
    let (v, rest) ← doubleQuotes cs
    return (d :: v, rest)
  | c :: cs => (doubleQuotes cs).map fun (v, rest) => (c :: v, rest)
  | [] => none

/-- A text in quotes of either form, and what follows it. -/
def quoted? : List Char → Option (List Char × List Char)
  | '\'' :: cs => apostrophes cs
  | '"' :: cs => doubleQuotes cs
  | _ => none

/-- A colon separates where a gap or the end of the line follows it. -/
def endsName (after : List Char) : Bool :=
  match after with
  | [] => true
  | c :: _ => isGap c

/-- The plain name at the start of a line, and what follows its colon. -/
def plainName? : List Char → Option (List Char × List Char)
  | [] => none
  | c :: cs =>
    if c = ':' && endsName cs then some ([], cs)
    else (plainName? cs).map fun (n, rest) => (c :: n, rest)

/-- The name of a member at the start of a line, and what follows its colon. -/
def name? (cs : List Char) : Option (List Char × List Char) :=
  match quoted? cs with
  | some (n, rest) =>
    match rest.dropWhile isGap with
    | ':' :: rest => if endsName rest then some (n, rest) else none
    | _ => none
  | none =>
    match cs with
    | '{' :: _ | '[' :: _ => none
    | _ => (plainName? cs).map fun (n, rest) => (Text.dropEndWhile isGap n, rest)

/-! ## Flow collections -/

def isFlowMark (c : Char) : Bool := c = ',' || c = '[' || c = ']' || c = '{' || c = '}'

/-- A plain scalar inside a flow collection. -/
def flowPlain : List Char → List Char × List Char
  | [] => ([], [])
  | c :: cs =>
    if isFlowMark c then ([], c :: cs)
    else if c = ':' && (endsName cs || cs.head?.any isFlowMark) then ([], c :: cs)
    else
      let (v, rest) := flowPlain cs
      (c :: v, rest)

def flowScalar (cs : List Char) : Json × List Char :=
  match quoted? cs with
  | some (v, rest) => (.text (.ofList v), rest)
  | none =>
    let (v, rest) := flowPlain cs
    (plain (Text.dropEndWhile isGap v), rest)

/-- The value that a name in a flow collection stands for. -/
def flowName (j : Json) : Json.Text :=
  match j with
  | .str s => s
  | .int n => .unicode (toString n)
  | .bool b => .unicode (toString b)
  | _ => .unicode ""

mutual

/-- A value at the start of `cs`, and what follows it. -/
def flow? : Nat → List Char → Option (Json × List Char)
  | 0, _ => none
  | fuel + 1, cs =>
    match cs.dropWhile isGap with
    | '[' :: cs => (flowItems fuel cs).map fun (js, rest) => (.arr js, rest)
    | '{' :: cs => (flowMembers fuel cs).map fun (ms, rest) => (Json.objOfList ms, rest)
    | cs => some (flowScalar cs)

def flowItems : Nat → List Char → Option (List Json × List Char)
  | 0, _ => none
  | fuel + 1, cs =>
    match cs.dropWhile isGap with
    | ']' :: rest => some ([], rest)
    | cs => do
      let (j, rest) ← flow? fuel cs
      match rest.dropWhile isGap with
      | ',' :: rest =>
        let (js, rest) ← flowItems fuel rest
        return (j :: js, rest)
      | ']' :: rest => return ([j], rest)
      | _ => none

def flowMembers : Nat → List Char → Option (List (Json.Text × Json) × List Char)
  | 0, _ => none
  | fuel + 1, cs =>
    match cs.dropWhile isGap with
    | '}' :: rest => some ([], rest)
    | cs => do
      let (name, rest) := flowScalar cs
      let (value, rest) ←
        match rest.dropWhile isGap with
        | ':' :: rest => flow? fuel rest
        | rest => some (.null, rest)
      match rest.dropWhile isGap with
      | ',' :: rest =>
        let (ms, rest) ← flowMembers fuel rest
        return ((flowName name, value) :: ms, rest)
      | '}' :: rest => return ([(flowName name, value)], rest)
      | _ => none

end

/-- The value that the rest of a line holds. -/
def inline? (cs : List Char) : Option Json :=
  match cs with
  | '[' :: _ | '{' :: _ | '\'' :: _ | '"' :: _ => do
    let (j, rest) ← flow? (cs.length + 1) cs
    if (rest.dropWhile isGap).isEmpty then some j else none
  | '|' :: _ | '>' :: _ | '&' :: _ | '*' :: _ | '!' :: _ | '%' :: _ | '@' :: _ => none
  | _ => some (plain cs)

/-! ## Block collections -/

structure Line where
  indent : Nat
  text : List Char

/-- The part of a line before its comment. `quote` is the quote that is open, and `opens` says
that a quote or a comment may start here. -/
def uncommented (quote : Option Char) (opens : Bool) : List Char → List Char
  | [] => []
  | c :: cs =>
    match quote with
    | some q => c :: uncommented (if c = q then none else some q) false cs
    | none =>
      if c = '#' && opens then []
      else if (c = '\'' || c = '"') && opens then c :: uncommented (some c) false cs
      else c :: uncommented none (isGap c || isFlowMark c) cs

/-- The lines that hold something, with their depth. -/
def linesOf (s : String) : List Line :=
  (((s.splitOn "\n").map fun l =>
    let cs := Text.dropEndWhile Text.isBlank (uncommented none true l.toList)
    let text := cs.dropWhile (· = ' ')
    (⟨cs.length - text.length, text⟩ : Line)).filter
      fun l => !l.text.isEmpty && String.ofList l.text ≠ "---").takeWhile
        fun l => String.ofList l.text ≠ "..."

/-- What follows the dash of an item. -/
def item? : List Char → Option (List Char)
  | ['-'] => some []
  | '-' :: c :: cs => if isGap c then some (c :: cs) else none
  | _ => none

mutual

/-- The value that starts on the first line, if that is at least `least` deep, and the lines that
follow it. -/
def block? : Nat → Nat → List Line → Option (Json × List Line)
  | 0, _, _ => none
  | _ + 1, _, [] => some (.null, [])
  | fuel + 1, least, l :: ls =>
    if l.indent < least then some (.null, l :: ls)
    else if (item? l.text).isSome then
      (items? fuel l.indent (l :: ls)).map fun (js, rest) => (.arr js, rest)
    else if (name? l.text).isSome then
      (members? fuel l.indent (l :: ls)).map fun (ms, rest) => (Json.objOfList ms, rest)
    else (inline? l.text).map fun j => (j, ls)

/-- The items at one depth. -/
def items? : Nat → Nat → List Line → Option (List Json × List Line)
  | 0, _, _ => none
  | _ + 1, _, [] => some ([], [])
  | fuel + 1, depth, l :: ls =>
    match if l.indent = depth then item? l.text else none with
    | none => if depth < l.indent then none else some ([], l :: ls)
    | some cs => do
      let text := cs.dropWhile isGap
      let lines := if text.isEmpty then ls else ⟨depth + 1 + (cs.length - text.length), text⟩ :: ls
      let (j, rest) ← block? fuel (depth + 1) lines
      let (js, rest) ← items? fuel depth rest
      return (j :: js, rest)

/-- The members at one depth. Items that are the value of a member may stand as deep as it. -/
def members? : Nat → Nat → List Line → Option (List (Json.Text × Json) × List Line)
  | 0, _, _ => none
  | _ + 1, _, [] => some ([], [])
  | fuel + 1, depth, l :: ls =>
    match if l.indent = depth then name? l.text else none with
    | none =>
      if depth < l.indent || l.indent = depth && (item? l.text).isNone then none
      else some ([], l :: ls)
    | some (name, cs) => do
      let text := cs.dropWhile isGap
      let (j, rest) ←
        if !text.isEmpty then (inline? text).map fun j => (j, ls)
        else
          match ls with
          | next :: _ =>
            if next.indent = depth && (item? next.text).isSome then
              (items? fuel depth ls).map fun (js, rest) => (.arr js, rest)
            else block? fuel (depth + 1) ls
          | [] => some (.null, [])
      let (ms, rest) ← members? fuel depth rest
      return ((.unicode (.ofList name), j) :: ms, rest)

end

/-- The document that a text holds. -/
def read? (s : String) : Option Json := do
  let lines := linesOf s
  match ← block? (s.length + lines.length + 2) 0 lines with
  | (j, []) => return j
  | _ => none

end ServiceTrust.Yaml
