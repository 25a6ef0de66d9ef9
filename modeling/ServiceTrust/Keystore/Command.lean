import ServiceTrust.Path

/-!
The commands of the key store tool, as argument vectors, and how a log or a message shows them.
-/
namespace ServiceTrust.Keystore

/-- Options whose argument is a password. -/
def passwordFlags : List String :=
  ["-storepass", "-srcstorepass", "-deststorepass", "-keypass", "-destkeypass"]

def maskedAfter (secret : Bool) : List String → List String
  | [] => []
  | arg :: args =>
    (if secret then "****" else arg) :: maskedAfter (passwordFlags.contains arg) args

/-- The arguments on one line, with those that follow a password option masked. -/
def masked (argv : List String) : String := " ".intercalate (maskedAfter false argv)

/-- The tool's output is read in English, whatever the locale. -/
def localeArguments : List String := ["-J-Duser.language=en", "-J-Duser.country=US"]

inductive StoreType where
  | pkcs12
  | jks
  deriving DecidableEq, Repr

def StoreType.name : StoreType → String
  | pkcs12 => "PKCS12"
  | jks => "JKS"

/-- A run of the tool: its arguments, the step that it is part of, and the store that it is
about. -/
structure Command where
  arguments : List String
  operation : String
  store : Option Path := none
  deriving DecidableEq, Repr

def Command.argv (c : Command) (executable : String) : List String :=
  executable :: localeArguments ++ c.arguments

namespace Command

/-- Puts a certificate into a store, as trusted or as the reply to the key of the alias. -/
def importCert (store : Path) (alias_ : String) (cert : Path) (password type : String) : Command where
  arguments := ["-importcert", "-noprompt", "-alias", alias_, "-file", toString cert, "-keystore",
    toString store, "-storetype", type, "-storepass", password]
  operation := s!"import {cert.name} as {alias_} into {store.name}"
  store := store

/-- Copies the key entry of an alias from one store into another. -/
def importKeystore (source : Path) (sourcePassword : String) (dest : Path)
    (destPassword alias_ sourceType destType : String) : Command where
  arguments := ["-importkeystore", "-noprompt", "-srckeystore", toString source, "-srcstoretype",
    sourceType, "-srcstorepass", sourcePassword, "-srcalias", alias_, "-destkeystore",
    toString dest, "-deststoretype", destType, "-deststorepass", destPassword, "-destkeypass",
    destPassword, "-destalias", alias_]
  operation := s!"convert {source.name} to {destType} {dest.name}"
  store := dest

def listEntries (store : Path) (password type : String) : Command where
  arguments := ["-list", "-v", "-keystore", toString store, "-storetype", type, "-storepass",
    password]
  operation := s!"list {store.name}"
  store := store

end Command

end ServiceTrust.Keystore
