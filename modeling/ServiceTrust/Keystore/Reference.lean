import ServiceTrust.Stage
import ServiceTrust.Keystore.Listing

/-!
A key store tool in memory. Its stores are files that hold a mark, the number of the run that wrote
them, the password and the entries.
-/
namespace ServiceTrust.Keystore.Reference

/-- The octets that a store starts with. -/
def mark : Bytes := [0xfe, 0xed, 0xfe, 0xed]

/-- The content of a store. -/
structure Store where
  run : Nat
  password : String
  entries : List Entry
  deriving Repr

/-! ## Stores as octets -/

def encodeText (s : String) : Bytes :=
  let bytes := Text.encode s
  Crypto.Words.ofNat 4 bytes.length ++ bytes

def encodeEntry (e : Entry) : Bytes :=
  encodeText e.alias_ ++ encodeText e.type ++
    (match e.sha256 with
      | some f => 1 :: encodeText f
      | none => [0])

def encode (s : Store) : Bytes :=
  mark ++ Crypto.Words.ofNat 8 s.run ++ encodeText s.password ++ s.entries.flatMap encodeEntry

def text? (bs : Bytes) : Option (String × Bytes) :=
  let n := Crypto.Words.toNat (bs.take 4)
  let rest := bs.drop 4
  if bs.length < 4 || rest.length < n then none
  else
    match Text.decode (rest.take n) with
    | .ok s => some (s, rest.drop n)
    | .error _ => none

def entries? (fuel : Nat) (bs : Bytes) : Option (List Entry) :=
  match fuel, bs with
  | _, [] => some []
  | 0, _ => none
  | fuel + 1, bs => do
    let (alias_, bs) ← text? bs
    let (type, bs) ← text? bs
    let (sha256, bs) ←
      match bs with
      | 1 :: bs => (text? bs).map fun (f, bs) => (some f, bs)
      | 0 :: bs => some (none, bs)
      | _ => none
    return ⟨alias_, type, sha256⟩ :: (← entries? fuel bs)

def decode? (bs : Bytes) : Option Store := do
  if !mark.isPrefixOf bs then none
  let bs := bs.drop 4
  let run := Crypto.Words.toNat (bs.take 8)
  let (password, bs) ← text? (bs.drop 8)
  return ⟨run, password, ← entries? bs.length bs⟩

/-! ## Commands -/

/-- The arguments of a command as flags with their values; two flags have none. -/
def options : List String → List (String × String)
  | [] => []
  | flag :: args =>
    if flag = "-noprompt" || flag = "-v" then options args
    else
      match args with
      | value :: args => (flag, value) :: options args
      | [] => []

/-- What the tool tells when a command fails. -/
abbrev Complaint := String

def present (t : Tree) (p : String) : Bool := t.contains (.ofString p)

/-- The store in a file, opened with a password. -/
def openStore (t : Tree) (p password : String) : Except Complaint Store :=
  match t.read (.ofString p) with
  | .error _ => .error "java.io.IOException: Invalid keystore format"
  | .ok bytes =>
    match decode? bytes with
    | none => .error "java.io.IOException: Invalid keystore format"
    | some s =>
      if s.password = password then .ok s
      else .error "java.io.IOException: keystore password was incorrect"

/-- The entries of a store, none if there is no store yet. -/
def entriesOf (t : Tree) (p password : String) : Except Complaint (List Entry) :=
  if present t p then (openStore t p password).map (·.entries) else .ok []

def save (run : Nat) (t : Tree) (p password : String) (entries : List Entry) :
    Except Complaint Tree :=
  if password.length < 6 then
    .error "java.lang.Exception: Keystore password must be at least 6 characters"
  else
    match t.write (.ofString p) (encode ⟨run, password, entries⟩) with
    | .ok t => .ok t
    | .error fault => .error ("java.io.FileNotFoundException: " ++ fault.message)

/-- The fingerprint of the first certificate in a file. -/
def fingerprint (suite : Suite) (t : Tree) (p : String) : Except Complaint String :=
  match t.read (.ofString p) with
  | .error _ => .error ("java.io.FileNotFoundException: " ++ p ++ " (No such file or directory)")
  | .ok bytes =>
    match suite.readCertificate bytes with
    | .ok c => .ok (suite.thumbprint c)
    | .error _ => .error "java.lang.Exception: Input not an X.509 certificate"

def importCert (suite : Suite) (run : Nat) (t : Tree) (get : String → String) :
    Except Complaint (String × Tree) := do
  let store := get "-keystore"
  let password := get "-storepass"
  let name := Text.lower (get "-alias")
  let entries ← entriesOf t store password
  let entries ←
    match entries.find? (·.alias_ = name) with
    | some e =>
      if e.isTrusted then
        let given := get "-alias"
        throw s!"java.lang.Exception: Certificate not imported, alias <{given}> already exists"
      else pure entries
    | none => do
      let f ← fingerprint suite t (get "-file")
      pure (entries ++ [⟨name, trustedType, some f⟩])
  return ("", ← save run t store password entries)

def importKeystore (run : Nat) (t : Tree) (get : String → String) :
    Except Complaint (String × Tree) := do
  let source := get "-srckeystore"
  if !present t source then
    throw ("java.lang.Exception: Source keystore file does not exist: " ++ source)
  let store := get "-destkeystore"
  let password := get "-deststorepass"
  let entries ← entriesOf t store password
  let entries := entries ++ [⟨Text.lower (get "-destalias"), "PrivateKeyEntry", none⟩]
  return ("", ← save run t store password entries)

/-- Pairs of characters in upper case with colons between them. -/
def coloned : List Char → List Char
  | a :: b :: c :: cs => a.toUpper :: b.toUpper :: ':' :: coloned (c :: cs)
  | cs => cs.map Char.toUpper

def describe (e : Entry) : String :=
  s!"Alias name: {e.alias_}\nEntry type: {e.type}\n" ++
    (match e.sha256 with
      | some f => "\t SHA256: " ++ .ofList (coloned f.toList) ++ "\n"
      | none => "")

def list (t : Tree) (get : String → String) : Except Complaint (String × Tree) := do
  let store := get "-keystore"
  if !present t store then throw ("java.lang.Exception: Keystore file does not exist: " ++ store)
  let s ← openStore t store (get "-storepass")
  return ("".intercalate (s.entries.map describe), t)

/-- One run of the tool; the first three arguments are its name and its locale. -/
def run (suite : Suite) (n : Nat) (argv : List String) (t : Tree) : ToolReply × Tree :=
  let args := argv.drop 3
  let given := options (args.drop 1)
  let get (flag : String) := (given.lookup flag).getD ""
  let outcome : Except Complaint (String × Tree) :=
    match args.head? with
    | some "-importcert" => importCert suite n t get
    | some "-importkeystore" => importKeystore n t get
    | some "-list" => list t get
    | _ => .ok ("", t)
  match outcome with
  | .ok (output, t) => (.finished 0 output "", t)
  | .error complaint => (.finished 1 s!"keytool error: {complaint}\n" "", t)

/-- The tool with replies that stand in for certain runs. -/
def withFaults (faults : Nat → Option ToolReply) (tool : Nat → List String → Tree → ToolReply × Tree)
    (n : Nat) (argv : List String) (t : Tree) : ToolReply × Tree :=
  match faults n with
  | some reply => (reply, t)
  | none => tool n argv t

end ServiceTrust.Keystore.Reference
