import ServiceTrust.CommandLine.Grammar
import ServiceTrust.Settings.Basic

/-!
The commands of the program, their options, and the settings that options override.
-/
namespace ServiceTrust.CommandLine

open Grammar

structure BuildOptions where
  force : Bool := false
  descriptor : Option Path := none
  output : Option Path := none
  tokens : Option Path := none
  deriving DecidableEq, Repr

structure DeployOptions where
  space : Option String := none
  authorityCert : Option Path := none
  authorityKey : Option Path := none
  output : Option Path := none
  tokens : Option Path := none
  tlsOnly : Bool := false
  dryRun : Bool := false
  deriving DecidableEq, Repr

inductive Command where
  | build (options : BuildOptions)
  | deploy (options : DeployOptions)
  deriving DecidableEq, Repr

def Command.name : Command → String
  | build _ => "build"
  | deploy _ => "deploy"

def commandNames : List String := ["build", "deploy"]

def program : String := "cluster-pki"

def force : OptionSpec := ⟨["-f", "--force"], false⟩
def descriptor : OptionSpec := ⟨["-c", "--ca-config"], true⟩
def output : OptionSpec := ⟨["-o", "--output-dir"], true⟩
def tokens : OptionSpec := ⟨["--jwt-dir"], true⟩
def space : OptionSpec := ⟨["-e", "--namespace"], true⟩
def authorityCert : OptionSpec := ⟨["--ca-file"], true⟩
def authorityKey : OptionSpec := ⟨["--ca-key"], true⟩
def tlsOnly : OptionSpec := ⟨["--tls-only"], false⟩
def dryRun : OptionSpec := ⟨["--dry-run"], false⟩

def topGrammar : Grammar := ⟨program, []⟩

def buildGrammar : Grammar := ⟨program ++ " build", [force, descriptor, output, tokens]⟩

def deployGrammar : Grammar :=
  ⟨program ++ " deploy", [space, authorityCert, authorityKey, output, tokens, tlsOnly, dryRun]⟩

/-- The value that an option was given last. -/
def value? (o : OptionSpec) (given : List Given) : Option String :=
  (given.reverse.find? (·.1 = o)).bind (·.2)

def path? (o : OptionSpec) (given : List Given) : Option Path :=
  (value? o given).map Path.ofString

def isGiven (o : OptionSpec) (given : List Given) : Bool := given.any (·.1 = o)

def BuildOptions.ofGiven (given : List Given) : BuildOptions where
  force := isGiven CommandLine.force given
  descriptor := path? CommandLine.descriptor given
  output := path? CommandLine.output given
  tokens := path? CommandLine.tokens given

def DeployOptions.ofGiven (given : List Given) : DeployOptions where
  space := value? CommandLine.space given
  authorityCert := path? CommandLine.authorityCert given
  authorityKey := path? CommandLine.authorityKey given
  output := path? CommandLine.output given
  tokens := path? CommandLine.tokens given
  tlsOnly := isGiven CommandLine.tlsOnly given
  dryRun := isGiven CommandLine.dryRun given

/-- A command line that is refused, and the program or command that refuses it. -/
structure Misuse where
  program : String
  fault : Fault
  deriving DecidableEq, Repr

def Misuse.message (m : Misuse) : String := s!"{m.program}: error: {m.fault.message}"

/-- What a command line asks for. -/
inductive Request where
  | help
  | run (command : Command)
  deriving DecidableEq, Repr

/-- The command with the options that its grammar reads, and what belongs to none. -/
def readCommand (g : Grammar) (make : List Given → Command) (arguments : List String) :
    Except Misuse (Option (Command × List String)) :=
  match g.read arguments with
  | .error fault => .error ⟨g.program, fault⟩
  | .ok .help => .ok none
  | .ok (.arguments given rest) => .ok (some (make given, rest))

/-- What stands before the command, and from the command on. -/
def splitAtCommand : List Token → List Token × List Token
  | .option text f :: ts =>
    let (before, rest) := splitAtCommand ts
    (.option text f :: before, rest)
  | ts => ([], ts)

/-- Arguments that belong to no option are refused at the end: those before the command and then
those after it. -/
def finish (before : List String) :
    Option (Command × List String) → Except Misuse Request
  | none => .ok .help
  | some (command, rest) =>
    match before ++ rest with
    | [] => .ok (.run command)
    | extra => .error ⟨program, .unrecognized extra⟩

def read (arguments : List String) : Except Misuse Request := do
  let refused (fault : Fault) : Except Misuse Request := .error ⟨program, fault⟩
  match topGrammar.tokens arguments with
  | .error fault => refused fault
  | .ok tokens =>
    let (before, rest) := splitAtCommand tokens
    match topGrammar.readTokens before with
    | .error fault => refused fault
    | .ok .help => .ok .help
    | .ok (.arguments _ extra) =>
      match rest with
      | [] | [.separator] => refused .commandMissing
      | t :: ts =>
        let arguments := ts.map (·.text)
        if t.text = "build" then
          finish extra (← readCommand buildGrammar (.build ∘ .ofGiven) arguments)
        else if t.text = "deploy" then
          finish extra (← readCommand deployGrammar (.deploy ∘ .ofGiven) arguments)
        else refused (.unknownCommand t.text commandNames)

/-! ## Overrides -/

/-- The settings with the options of a command in place of what they say. -/
def Command.override (s : Settings) : Command → Settings
  | .build o =>
    { s with
      tlsDirectory := o.output.getD s.tlsDirectory
      authorityDescriptor := o.descriptor <|> s.authorityDescriptor
      tokenDirectory := o.tokens.getD s.tokenDirectory }
  | .deploy o =>
    { s with
      tlsDirectory := o.output.getD s.tlsDirectory
      tokenDirectory := o.tokens.getD s.tokenDirectory
      deploySpace := o.space.getD s.deploySpace
      authorityCert := o.authorityCert <|> s.authorityCert
      authorityKey := o.authorityKey <|> s.authorityKey }

/-- The command has an option that overrides a setting, whether or not it changes it. -/
def Command.overrides : Command → Bool
  | .build o => o.output.isSome || o.descriptor.isSome || o.tokens.isSome
  | .deploy o =>
    o.output.isSome || o.tokens.isSome || o.space.isSome || o.authorityCert.isSome ||
      o.authorityKey.isSome

end ServiceTrust.CommandLine
