import ServiceTrust.Text.Digit
import ServiceTrust.Text.Quoted

/-!
Options on a command line: long and short spellings, unambiguous beginnings of long ones, short
ones written together, and values that follow an option or are attached to it.
-/
namespace ServiceTrust.CommandLine

/-- An option by its spellings. A switch takes no value. -/
structure OptionSpec where
  spellings : List String
  takesValue : Bool
  deriving DecidableEq, Repr

def OptionSpec.label (o : OptionSpec) : String := "/".intercalate o.spellings

/-- The switch that every grammar has first. -/
def help : OptionSpec := ⟨["-h", "--help"], false⟩

structure Grammar where
  program : String
  options : List OptionSpec

inductive Fault where
  | ambiguous (given : String) (candidates : List String)
  | valueExpected (option : OptionSpec)
  | valueIgnored (option : OptionSpec) (value : String)
  | unknownCommand (given : String) (commands : List String)
  | commandMissing
  | unrecognized (arguments : List String)
  deriving DecidableEq, Repr

def Fault.message : Fault → String
  | ambiguous given candidates =>
    s!"ambiguous option: {given} could match " ++ ", ".intercalate candidates
  | valueExpected o => s!"argument {o.label}: expected one argument"
  | valueIgnored o value =>
    s!"argument {o.label}: ignored explicit argument {Text.quoted value}"
  | unknownCommand given commands =>
    s!"argument command: invalid choice: {Text.quoted given} " ++
      "(choose from " ++ ", ".intercalate (commands.map Text.quoted) ++ ")"
  | commandMissing => "the following arguments are required: command"
  | unrecognized arguments => "unrecognized arguments: " ++ " ".intercalate arguments

/-- A text that is attached to an option: with an equals sign, or with nothing between. -/
structure Attached where
  text : List Char
  withEquals : Bool
  deriving DecidableEq, Repr

/-- An option as it was found in an argument: the option, unless it is unknown, how it was
spelt, and the text that is attached to it. -/
structure Found where
  option : Option OptionSpec
  spelling : String
  attached : Option Attached

inductive Token where
  | plain (text : String)
  /-- Two dashes, after which nothing is an option. -/
  | separator
  | option (text : String) (found : Found)

def Token.text : Token → String
  | plain text => text
  | separator => "--"
  | option text _ => text

namespace Grammar

def allOptions (g : Grammar) : List OptionSpec := help :: g.options

def find? (g : Grammar) (spelling : String) : Option OptionSpec :=
  g.allOptions.find? (·.spellings.contains spelling)

/-- Every spelling with its option. -/
def spellings (g : Grammar) : List (String × OptionSpec) :=
  g.allOptions.flatMap fun o => o.spellings.map (·, o)

/-- Splits a text at its first equals sign. -/
def splitAtEquals : List Char → Option (List Char × List Char)
  | [] => none
  | c :: cs =>
    if c = '=' then some ([], cs) else (splitAtEquals cs).map fun (a, b) => (c :: a, b)

/-- What an argument of dashes may stand for that is not spelt out: a long option by its
beginning, or a short one with the text attached to it. -/
def candidates (g : Grammar) (cs : List Char) : List Found :=
  match cs with
  | '-' :: '-' :: _ =>
    let (start, attached) : List Char × Option Attached :=
      match splitAtEquals cs with
      | some (a, b) => (a, some ⟨b, true⟩)
      | none => (cs, none)
    g.spellings.filterMap fun (s, o) =>
      if start.isPrefixOf s.toList then some ⟨some o, s, attached⟩ else none
  | _ =>
    g.spellings.filterMap fun (s, o) =>
      if s.toList = cs.take 2 then some ⟨some o, s, some ⟨cs.drop 2, false⟩⟩ else none

/-- A minus sign with digits, and perhaps a point before the last of them. -/
def isNegativeNumber (cs : List Char) : Bool :=
  match cs with
  | '-' :: cs =>
    let cs := if cs.getLast? = some '\n' then cs.dropLast else cs
    let whole := cs.takeWhile Text.isDigit
    match cs.drop whole.length with
    | [] => !whole.isEmpty
    | '.' :: fraction => !fraction.isEmpty && fraction.all Text.isDigit
    | _ => false
  | _ => false

/-- What one argument is. Negative numbers, and texts with a space, are no options. -/
def token (g : Grammar) (text : String) : Except Fault Token :=
  match text.toList with
  | '-' :: c :: cs =>
    match g.find? text with
    | some o => .ok (.option text ⟨some o, text, none⟩)
    | none =>
      let all := '-' :: c :: cs
      let attached := (splitAtEquals all).bind fun (a, b) =>
        (g.find? (.ofList a)).map fun o => (⟨some o, .ofList a, some ⟨b, true⟩⟩ : Found)
      match attached, g.candidates all with
      | some f, _ => .ok (.option text f)
      | none, [f] => .ok (.option text f)
      | none, [] =>
        if isNegativeNumber all || all.contains ' ' then .ok (.plain text)
        else .ok (.option text ⟨none, text, none⟩)
      | none, fs => .error (.ambiguous text (fs.map (·.spelling)))
  | _ => .ok (.plain text)

def tokens (g : Grammar) : List String → Except Fault (List Token)
  | [] => .ok []
  | text :: rest => do
    if text = "--" then return .separator :: rest.map .plain
    let t ← g.token text
    return t :: (← g.tokens rest)

/-- An option that was given, with its value. -/
abbrev Given := OptionSpec × Option String

/-- What one argument gives: options, perhaps one more that still needs its value, and perhaps a
rest that spells no option. -/
structure Unfolded where
  given : List Given
  pending : Option OptionSpec := none
  unknown : Option String := none

def Unfolded.after (first : Given) (u : Unfolded) : Unfolded := { u with given := first :: u.given }

/-- An option by itself: a switch is given, any other needs a value. -/
def Unfolded.single (o : OptionSpec) : Unfolded :=
  if o.takesValue then { given := [], pending := some o } else { given := [(o, none)] }

/-- The text attached to an option is its value. After a short switch it spells further short
options instead, unless it is attached by an equals sign or starts with a dash. -/
def unfold (g : Grammar) (o : OptionSpec) (isShort : Bool) : Option Attached → Except Fault Unfolded
  | none => .ok (.single o)
  | some a => go o a.withEquals a.text
where
  go (o : OptionSpec) (withEquals : Bool) : List Char → Except Fault Unfolded
    | [] => if o.takesValue then .ok ⟨[(o, some "")], none, none⟩ else .error (.valueIgnored o "")
    | c :: cs =>
      if o.takesValue then .ok ⟨[(o, some (.ofList (c :: cs)))], none, none⟩
      else if !isShort || withEquals || c = '-' then .error (.valueIgnored o (.ofList (c :: cs)))
      else
        match g.find? (.ofList ['-', c]), cs with
        | none, _ => .ok ⟨[(o, none)], none, some (.ofList ('-' :: c :: cs))⟩
        | some next, [] => .ok ((Unfolded.single next).after (o, none))
        | some next, '=' :: cs => (go next true cs).map (.after (o, none))
        | some next, cs => (go next false cs).map (.after (o, none))

/-- Long options start with two dashes. -/
def isShort (spelling : String) : Bool :=
  match spelling.toList with
  | '-' :: '-' :: _ => false
  | _ => true

/-- What a command line gives: help, or options and the arguments that belong to none. -/
inductive Reading where
  | help
  | arguments (given : List Given) (rest : List String)

/-- Adds what is in front of a reading; asked for there, help comes before everything that
follows. -/
def Reading.after (given : List Given) (rest : List String) : Reading → Reading
  | help => .help
  | arguments given' rest' => .arguments (given ++ given') (rest ++ rest')

def asksHelp (given : List Given) : Bool := given.any (·.1 = CommandLine.help)

/-- The reading of arguments in order. -/
def readTokens (g : Grammar) : List Token → Except Fault Reading
  | [] => .ok (.arguments [] [])
  | .plain text :: ts => (g.readTokens ts).map (.after [] [text])
  | .separator :: ts => (g.readTokens ts).map (.after [] ["--"])
  | .option text f :: ts =>
    match f.option with
    | none => (g.readTokens ts).map (.after [] [text])
    | some o =>
      match g.unfold o (isShort f.spelling) f.attached with
      | .error fault => .error fault
      | .ok ⟨given, none, unknown⟩ =>
        if asksHelp given then .ok .help
        else (g.readTokens ts).map (.after given unknown.toList)
      | .ok ⟨given, some pending, _⟩ =>
        match ts with
        | .plain value :: ts =>
          if asksHelp given then .ok .help
          else (g.readTokens ts).map (.after (given ++ [(pending, some value)]) [])
        | _ => .error (.valueExpected pending)

def read (g : Grammar) (arguments : List String) : Except Fault Reading := do
  g.readTokens (← g.tokens arguments)

end Grammar

end ServiceTrust.CommandLine
