import ServiceTrust.Crypto.Aes
import ServiceTrust.Crypto.StoreKey
import ServiceTrust.X509.KeyFile

/-!
PKCS #12 stores: a private key with its certificate under an alias, and further certificates,
encrypted and authenticated by a password.
-/
namespace ServiceTrust

open Asn1 Crypto X509

/-- What an opened store holds. -/
structure StoreContent where
  key : Option Crypto.PrivateKey
  /-- The certificate of the key, with its alias. -/
  leaf : Option (Certificate × Option String)
  others : List Certificate

namespace Pkcs12

namespace Oid

def data : Oid := [1, 2, 840, 113549, 1, 7, 1]
def encryptedData : Oid := [1, 2, 840, 113549, 1, 7, 6]
def keyBag : Oid := [1, 2, 840, 113549, 1, 12, 10, 1, 1]
def shroudedKeyBag : Oid := [1, 2, 840, 113549, 1, 12, 10, 1, 2]
def certBag : Oid := [1, 2, 840, 113549, 1, 12, 10, 1, 3]
def x509Certificate : Oid := [1, 2, 840, 113549, 1, 9, 22, 1]
def friendlyName : Oid := [1, 2, 840, 113549, 1, 9, 20]
def localKeyId : Oid := [1, 2, 840, 113549, 1, 9, 21]
def pbes2 : Oid := [1, 2, 840, 113549, 1, 5, 13]
def pbkdf2 : Oid := [1, 2, 840, 113549, 1, 5, 12]
def hmacSha256 : Oid := [1, 2, 840, 113549, 2, 9]
def aes256Cbc : Oid := [2, 16, 840, 1, 101, 3, 4, 1, 42]

end Oid

/-- How often a password is hashed in a store that is written here. -/
def iterations : Nat := 2048

/-! ## Writing -/

/-- The description of the encryption with a salt and an initial vector. -/
def scheme (salt iv : Bytes) : Bytes :=
  Der.sequence [Der.oid Oid.pbes2, Der.sequence [
    Der.sequence [Der.oid Oid.pbkdf2, Der.sequence [Der.octets salt, Der.nat iterations,
      Der.sequence [Der.oid Oid.hmacSha256, Der.null]]],
    Der.sequence [Der.oid Oid.aes256Cbc, Der.octets iv]]]

def encrypt (password : String) (salt iv plain : Bytes) : Bytes :=
  Aes.encrypt (pbkdf2 (Text.encode password) salt iterations 32) iv plain

/-- The attributes that tie a key to its certificate. -/
def attributes (alias_ : String) (id : Bytes) : Bytes :=
  Der.set [
    Der.sequence [Der.oid Oid.friendlyName, Der.set [Der.tagged 0x1e (StoreKey.units16 alias_)]],
    Der.sequence [Der.oid Oid.localKeyId, Der.set [Der.octets id]]]

def certBag (c : Certificate) (more : List Bytes) : Bytes :=
  Der.sequence ([Der.oid Oid.certBag, Der.context 0 true (Der.sequence [Der.oid Oid.x509Certificate,
    Der.context 0 true (Der.octets c.whole)])] ++ more)

/-- A store with one key entry; `seed` gives its salts and initial vectors. -/
def write (alias_ : String) (key : Crypto.PrivateKey) (leaf : Certificate)
    (others : List Certificate) (password : String) (seed : Bytes) : Bytes :=
  let random := expand seed 64
  let part (i n : Nat) := (random.drop i).take n
  let named := attributes alias_ (sha1 leaf.whole)
  let certs := Der.sequence (certBag leaf [named] :: others.map (certBag · []))
  let encryptedCerts := Der.sequence [Der.oid Oid.encryptedData, Der.context 0 true
    (Der.sequence [Der.nat 0, Der.sequence [Der.oid Oid.data, scheme (part 0 8) (part 8 16),
      Der.context 0 false (encrypt password (part 0 8) (part 8 16) certs)]])]
  let shrouded := Der.sequence [scheme (part 24 8) (part 32 16),
    Der.octets (encrypt password (part 24 8) (part 32 16) (KeyFile.encode key))]
  let keys := Der.sequence [Der.sequence [Der.oid Oid.shroudedKeyBag,
    Der.context 0 true shrouded, named]]
  let plainKeys := Der.sequence [Der.oid Oid.data, Der.context 0 true (Der.octets keys)]
  let safe := Der.sequence [encryptedCerts, plainKeys]
  let salt := part 48 8
  let mac := hmac .sha256 (StoreKey.derive .sha256 StoreKey.macPurpose password salt iterations) safe
  let sha256Oid : Oid := [2, 16, 840, 1, 101, 3, 4, 2, 1]
  Der.sequence [Der.nat 3,
    Der.sequence [Der.oid Oid.data, Der.context 0 true (Der.octets safe)],
    Der.sequence [
      Der.sequence [Der.sequence [Der.oid sha256Oid, Der.null], Der.octets mac],
      Der.octets salt, Der.nat iterations]]

/-! ## Reading -/

/-- A private key or a certificate with its alias and its key identifier. -/
inductive Item where
  | key (key : ReadKey)
  | cert (cert : Certificate) (alias_ : Option String)

/-- Decrypts what the described scheme encrypted. -/
def decrypt? (password : String) (algorithm : Tlv) (cipher : Bytes) : Option Bytes := do
  match ← algorithm.sequence? with
  | [oid, parameters] =>
    if (← oid.oid?) ≠ Oid.pbes2 then none
    match ← parameters.sequence? with
    | [derivation, encryption] =>
      match ← derivation.sequence?, ← encryption.sequence? with
      | [derivationOid, derivationParameters], [cipherOid, iv] =>
        if (← derivationOid.oid?) ≠ Oid.pbkdf2 || (← cipherOid.oid?) ≠ Oid.aes256Cbc then none
        match ← derivationParameters.sequence? with
        | salt :: count :: _ =>
          let key := pbkdf2 (Text.encode password) (← salt.octets?) (← count.nat?) 32
          Aes.decrypt? key (← iv.octets?) cipher
        | _ => none
      | _, _ => none
    | _ => none
  | _ => none

/-- The text of UTF-16 units without surrogates. -/
def textOfUnits? : Bytes → Option String
  | bs =>
    let rec units : Bytes → Option (List Char)
      | [] => some []
      | [_] => none
      | a :: b :: rest =>
        let n := a.toNat * 256 + b.toNat
        if 0xd800 ≤ n && n ≤ 0xdfff then none else (units rest).map (Char.ofNat n :: ·)
    (units bs).map .ofList

/-- The alias among the attributes of a bag. -/
def alias? (attributes : List Tlv) : Option String :=
  attributes.findSome? fun a => do
    match ← a.sequence? with
    | [oid, values] =>
      if (← oid.oid?) = Oid.friendlyName then
        match ← values.set? with
        | [v] => textOfUnits? v.content
        | _ => none
      else none
    | _ => none

def item? (password : String) (bag : Tlv) : Option (List Item) := do
  match ← bag.sequence? with
  | oid :: value :: rest =>
    let oid ← oid.oid?
    let inner ← value.inside? 0
    if oid = Oid.keyBag then return [.key (← KeyFile.decode? inner.whole)]
    else if oid = Oid.shroudedKeyBag then
      match ← inner.sequence? with
      | [algorithm, cipher] =>
        let plain ← decrypt? password algorithm (← cipher.octets?)
        return [.key (← KeyFile.decode? plain)]
      | _ => none
    else if oid = Oid.certBag then
      match ← inner.sequence? with
      | [_, value] =>
        let cert ← decodeCertificate? (← (← value.inside? 0).octets?)
        let attributes := (rest.findSome? Tlv.set?).getD []
        return [.cert cert (alias? attributes)]
      | _ => none
    else return []
  | _ => none

/-- The bags of one part of the store. -/
def part? (password : String) (content : Tlv) : Option (List Item) := do
  match ← content.sequence? with
  | [oid, value] =>
    let oid ← oid.oid?
    let inner ← value.inside? 0
    let plain ←
      if oid = Oid.data then inner.octets?
      else if oid = Oid.encryptedData then
        match ← inner.sequence? with
        | [_, encrypted] =>
          match ← encrypted.sequence? with
          | [_, algorithm, cipher] => decrypt? password algorithm cipher.content
          | _ => none
        | _ => none
      else none
    let bags ← (← Tlv.parse? plain).sequence?
    return (← bags.mapM (item? password)).flatten
  | _ => none

/-- The authentication code is right for the password, or there is none. -/
def checkMac? (password : String) (safe : Bytes) (mac : Tlv) : Option Unit := do
  match ← mac.sequence? with
  | info :: salt :: rest =>
    let count := (rest.head?.bind Tlv.nat?).getD 1
    match ← info.sequence? with
    | [algorithm, digest] =>
      let oid ← (← (← algorithm.sequence?).head?).oid?
      let h ← [Hash.sha1, .sha256, .sha384, .sha512].find? fun h => hashOid? h = some oid
      let key := StoreKey.derive h StoreKey.macPurpose password (← salt.octets?) count
      if hmac h key safe = (← digest.octets?) then some () else none
    | _ => none
  | _ => none

/-- The first certificate of the key, and the other certificates. -/
def arrange (key : Option Crypto.PrivateKey) (certs : List (Certificate × Option String)) :
    StoreContent :=
  match key with
  | none => ⟨none, none, certs.map (·.1)⟩
  | some k =>
    let isLeaf (c : Certificate × Option String) := c.1.body.publicKey = k.public
    let before := certs.takeWhile (!isLeaf ·)
    match certs.drop before.length with
    | leaf :: after => ⟨some k, some leaf, (before ++ after).map (·.1)⟩
    | [] => ⟨some k, none, certs.map (·.1)⟩

/-- What the password opens, if it does. -/
def read (bs : Bytes) (password : String) : Option StoreContent := do
  match ← (← Tlv.parse? bs).sequence? with
  | version :: content :: mac =>
    if (← version.nat?) ≠ 3 then none
    match ← content.sequence? with
    | [_, value] =>
      let safe ← (← value.inside? 0).octets?
      mac.forM (checkMac? password safe)
      let parts ← (← Tlv.parse? safe).sequence?
      let items := (← parts.mapM (part? password)).flatten
      let keys := items.filterMap fun i =>
        match i with
        | .key (.known k) => some k
        | _ => none
      let certs := items.filterMap fun i =>
        match i with
        | .cert c a => some (c, a)
        | _ => none
      return arrange keys.head? certs
    | _ => none
  | _ => none

end Pkcs12

end ServiceTrust
