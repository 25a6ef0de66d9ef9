/-
The records that a deployment is to bring about, as a function of the files, the settings and the
services. No two of them share a name within a namespace unless they are equal: the endings of their
names tell secrets of services, of a broker's authorities, of the token keys and of credentials apart.
-/
import ServiceTrust.Pipeline.Deploy
import ServiceTrust.Proofs.Publish.DryRun
import ServiceTrust.Proofs.Publish.Entries
import ServiceTrust.Proofs.Publish.Routing
import Mathlib.Data.List.Nodup

namespace ServiceTrust

namespace Publish

variable {t : Tree} {authority : AuthorityFiles} {space : String} {p q : Profile} {r : SecretRecord}

/-! ## The records -/

/-- The secret of a role, with the contents of the files behind its entries. -/
def primaryRecord (t : Tree) (authority : AuthorityFiles) (space : String) (p : Profile) (role : Role) :
    SecretRecord :=
  ⟨secretName p.name role, space, contents t (dataEntries p role authority), [], []⟩

/-- What the secret of a role has under a key that its convention binds. -/
theorem lookup_primary {role : Role} {k : Key} {source : Source} {bytes : Bytes}
    (hb : binds p.convention role k source = true) (hr : t.read (source.path p.layout authority) = .ok bytes) :
    (contents t (dataEntries p role authority)).lookup (k.text p.name) = some bytes := by
  rw [lookup_contents, lookup_dataEntries hb, Option.map_some, hr]
  rfl

/-- The secrets that a broker's operator looks for. -/
def auxiliaryRecords (t : Tree) (authority : AuthorityFiles) (space : String) : List SecretRecord :=
  let labels := [("strimzi.io/kind", "Kafka"), ("strimzi.io/cluster", space)]
  ["cluster", "clients"].flatMap fun scope =>
    [⟨s!"{space}-{scope}-ca-cert", space, contents t [("ca.crt", authority.cert)], labels,
        [("strimzi.io/ca-cert-generation", "0")]⟩,
      ⟨s!"{space}-{scope}-ca", space, contents t [("ca.key", authority.key)], labels,
        [("strimzi.io/ca-key-generation", "0")]⟩]

/-- The auxiliary secrets go with the server secret of a broker. -/
def hasAuxiliaries (p : Profile) (role : Role) : Bool :=
  p.convention = .brokerOperator && role = .server

/-- The secrets of one role, the one of the role first. -/
def roleRecords (t : Tree) (authority : AuthorityFiles) (space : String) (p : Profile) (role : Role) :
    List SecretRecord :=
  primaryRecord t authority space p role ::
    if hasAuxiliaries p role then auxiliaryRecords t authority space else []

def tokenRecord (t : Tree) (s : Settings) (space : String) : SecretRecord :=
  { name := TokenKeys.secretName space s.credentialsApp
    space := space
    data := contents t [("private-key.pem", s.tokenDirectory.child TokenKeys.privateName),
      ("public-key.pem", s.tokenDirectory.child TokenKeys.publicName)] }

def credentialRecords (s : Settings) (space : String) : List SecretRecord :=
  (Credentials.values s space).map fun e => literalRecord e.1 space e.2

/-- The namespace of a service: the one of the deployment for a routed service, the default for any
other, where there is one. -/
def targetSpace (s : Settings) (space service : String) : String :=
  if service ∈ Routing.routed || s.defaultSpace.isEmpty then space else s.defaultSpace

def serviceRecords (t : Tree) (s : Settings) (space : String) (p : Profile) : List SecretRecord :=
  Role.all.flatMap (roleRecords t (Pipeline.authorityFiles s) (targetSpace s space p.name) p)

/-- All records of a deployment of the services `ps`. -/
def deployRecords (t : Tree) (s : Settings) (space : String) (tlsOnly : Bool) (ps : List Profile) :
    List SecretRecord :=
  ps.flatMap (serviceRecords t s space) ++
    if tlsOnly then [] else tokenRecord t s space :: credentialRecords s space

/-! ## Names -/

/-- What a name is one of. -/
inductive Kind where
  | primary
  | auxiliary
  | token
  | credential
  deriving DecidableEq

/-- What a name is one of, by its last three characters, last first. -/
def Kind.ofEnding (e : List Char) : Kind :=
  if e = ['s', 'y', 'e'] then .token
  else if e = ['s', 'l', 'a'] then .credential
  else if e = ['t', 'r', 'e'] || e = ['a', 'c', '-'] then .auxiliary
  else .primary

def kindOf (name : String) : Kind := .ofEnding (ending 3 name)

theorem kindOf_append (a : String) {b : String} (h : 3 ≤ b.toList.length) :
    kindOf (a ++ b) = .ofEnding (ending 3 b) := by
  rw [kindOf, ending_append 3 a h]

theorem secretName_eq (service : String) (role : Role) :
    secretName service role = "tls-" ++ service ++ ("-" ++ role.name) := by
  show "tls-" ++ service ++ "-" ++ role.name = _
  rw [String.append_assoc]

theorem length_roleSuffix (role : Role) : 3 ≤ ("-" ++ role.name).toList.length := by
  cases role <;> decide

theorem append_inj_suffix {a b c d : String} (h : a ++ c = b ++ d) (hl : c.toList.length = d.toList.length) :
    a = b ∧ c = d := by
  have hlist := congrArg String.toList h
  rw [String.toList_append, String.toList_append] at hlist
  obtain ⟨hab, hcd⟩ := List.append_inj' hlist hl
  exact ⟨String.toList_inj.mp hab, String.toList_inj.mp hcd⟩

theorem secretName_inj {service service' : String} {role role' : Role}
    (h : secretName service role = secretName service' role') : service = service' ∧ role = role' := by
  rw [secretName_eq, secretName_eq] at h
  have hending := congrArg (ending 3) h
  rw [ending_append 3 _ (length_roleSuffix role), ending_append 3 _ (length_roleSuffix role')] at hending
  have hrole : role = role' := by
    have hall : ∀ r ∈ Role.all, ∀ r' ∈ Role.all,
        ending 3 ("-" ++ r.name) = ending 3 ("-" ++ r'.name) → r = r' := by decide
    exact hall role role.mem_all role' role'.mem_all hending
  subst hrole
  obtain ⟨hs, -⟩ := append_inj_suffix h rfl
  have hlist := congrArg String.toList hs
  rw [String.toList_append, String.toList_append] at hlist
  exact ⟨String.toList_inj.mp (List.append_cancel_left hlist), rfl⟩

theorem kindOf_secretName (service : String) (role : Role) : kindOf (secretName service role) = .primary := by
  rw [secretName_eq, kindOf_append _ (length_roleSuffix role)]
  cases role <;> decide

/-- The names of a broker's auxiliary secrets, after the namespace. -/
def auxiliarySuffixes : List String := ["-cluster-ca-cert", "-cluster-ca", "-clients-ca-cert", "-clients-ca"]

theorem names_auxiliaryRecords :
    (auxiliaryRecords t authority space).map (·.name) = auxiliarySuffixes.map (space ++ ·) := by
  simp [auxiliaryRecords, auxiliarySuffixes, String.append_assoc, toString]

theorem nodup_names_auxiliaryRecords : ((auxiliaryRecords t authority space).map (·.name)).Nodup := by
  rw [names_auxiliaryRecords]
  refine List.Nodup.map (fun a b h => ?_) (by decide)
  have hlist := congrArg String.toList h
  rw [String.toList_append, String.toList_append] at hlist
  exact String.toList_inj.mp (List.append_cancel_left hlist)

theorem of_mem_auxiliaryRecords (h : r ∈ auxiliaryRecords t authority space) :
    r.space = space ∧ kindOf r.name = .auxiliary := by
  constructor
  · simp only [auxiliaryRecords, List.flatMap_cons, List.flatMap_nil, List.append_nil, List.cons_append,
      List.nil_append, List.mem_cons, List.not_mem_nil, or_false] at h
    rcases h with rfl | rfl | rfl | rfl <;> rfl
  · have hname := List.mem_map_of_mem (f := (·.name)) h
    rw [names_auxiliaryRecords] at hname
    obtain ⟨suffix, hs, he⟩ := List.mem_map.mp hname
    have hall : ∀ suffix ∈ auxiliarySuffixes, 3 ≤ suffix.toList.length ∧
        Kind.ofEnding (ending 3 suffix) = .auxiliary := by decide
    rw [← he, kindOf_append _ (hall suffix hs).1]
    exact (hall suffix hs).2

theorem kindOf_tokenRecord (t : Tree) (s : Settings) (space : String) :
    kindOf (tokenRecord t s space).name = .token := by
  have hname : (tokenRecord t s space).name = space ++ "-" ++ s.credentialsApp ++ "-jwt-keys" := rfl
  rw [hname, kindOf_append _ (by decide)]
  decide

/-! ## Credentials -/

def apiRow (s : Settings) (space : String) : String × List (String × String) :=
  (s!"{space}-{s.credentialsApp}-db-credentials", [("username", s.apiUser), ("password", s.apiPassword)])

def databaseRow (s : Settings) (space : String) : String × List (String × String) :=
  (s!"{space}-postgres-db-credentials", [("username", s.databaseUser), ("password", s.databasePassword)])

def storageRow (s : Settings) (space : String) : String × List (String × String) :=
  (s!"{space}-{s.credentialsApp}-s3-credentials",
    [("access-key", s.storageAccessKey), ("secret-key", s.storageSecretKey)])

theorem apiName_eq (s : Settings) (space : String) :
    (apiRow s space).1 = space ++ "-" ++ (s.credentialsApp ++ "-db-credentials") := by
  rw [← String.append_assoc]
  rfl

theorem databaseName_eq (s : Settings) (space : String) :
    (databaseRow s space).1 = space ++ "-" ++ ("postgres" ++ "-db-credentials") := by
  rw [String.append_assoc]
  rfl

/-- Only an application that is named like the database has a secret of the same name. -/
theorem apiName_eq_iff {s : Settings} :
    (apiRow s space).1 = (databaseRow s space).1 ↔ s.credentialsApp = "postgres" := by
  rw [apiName_eq, databaseName_eq, ← String.toList_inj, String.toList_append,
    String.toList_append (t := "postgres" ++ _), List.append_cancel_left_eq, String.toList_inj]
  exact ⟨fun h => (append_inj_suffix h rfl).1, fun h => h ▸ rfl⟩

/-- The secret of the object storage is told from the others by the end of its name. -/
theorem storageName_ne {s : Settings} (a b : String) : a ++ (b ++ "-db-credentials") ≠ (storageRow s space).1 :=
  fun h => by
    have hstorage : (storageRow s space).1 = space ++ "-" ++ s.credentialsApp ++ "-s3-credentials" := rfl
    rw [← String.append_assoc, hstorage] at h
    have hends : "-db-credentials" = "-s3-credentials" := (append_inj_suffix h (by decide)).2
    exact absurd hends (by decide)

/-- The names and values of the credentials. Those of the database take the place of those of an application that
is named like it. -/
def credentialRows (s : Settings) (space : String) : List (String × List (String × String)) :=
  if s.credentialsApp = "postgres" then [databaseRow s space, storageRow s space]
  else [apiRow s space, databaseRow s space, storageRow s space]

theorem nodup_names_credentialRows (s : Settings) (space : String) :
    ((credentialRows s space).map (·.1)).Nodup := by
  have hdatabase : (databaseRow s space).1 ≠ (storageRow s space).1 := databaseName_eq s space ▸ storageName_ne _ _
  have hapi : (apiRow s space).1 ≠ (storageRow s space).1 := apiName_eq s space ▸ storageName_ne _ _
  unfold credentialRows
  split
  next => simp [hdatabase]
  next happ => simp [hdatabase, hapi, mt apiName_eq_iff.mp happ]

/-- Binds a name to values, where it stands if it is there already. -/
def bindValues (done : List (String × List (String × String))) (e : String × List (String × String)) :
    List (String × List (String × String)) :=
  if (done.lookup e.1).isSome then done.map fun d => if d.1 = e.1 then (e.1, e.2) else d
  else done ++ [(e.1, e.2)]

/-- Rows of names that are not bound yet are all bound, in order. -/
theorem foldl_bindValues_of_nodup {rows done : List (String × List (String × String))}
    (h : ((done ++ rows).map (·.1)).Nodup) : rows.foldl bindValues done = done ++ rows := by
  induction rows generalizing done with
  | nil => rw [List.foldl_nil, List.append_nil]
  | cons e rows ih =>
    have hnew : (done.lookup e.1).isSome = false := by
      rw [Lookup.isSome_lookup, List.any_eq_false]
      intro d hd hde
      rw [List.map_append, List.nodup_append] at h
      exact h.2.2 d.1 (List.mem_map_of_mem hd) e.1 (List.mem_map_of_mem (List.mem_cons_self ..))
        (of_decide_eq_true hde)
    have hbind : bindValues done e = done ++ [e] := by
      rw [bindValues, if_neg (Bool.eq_false_iff.mp hnew)]
    rw [List.foldl_cons, hbind, ih (by rwa [List.append_assoc]), List.append_assoc]
    rfl

theorem values_eq (s : Settings) (space : String) : Credentials.values s space = credentialRows s space := by
  have hvalues : Credentials.values s space =
      [apiRow s space, databaseRow s space, storageRow s space].foldl bindValues [] := rfl
  have hnodup := nodup_names_credentialRows s space
  unfold credentialRows at hnodup ⊢
  rw [hvalues]
  split
  next happ =>
    rw [if_pos happ] at hnodup
    -- the third row comes after a name that is bound twice, so only the first two are gone through by hand
    have hplace : bindValues (bindValues [] (apiRow s space)) (databaseRow s space) = [databaseRow s space] := by
      simp [bindValues, apiName_eq_iff.mpr happ]
    rw [List.foldl_cons, List.foldl_cons, hplace]
    exact foldl_bindValues_of_nodup hnodup
  next happ =>
    rw [if_neg happ] at hnodup
    exact foldl_bindValues_of_nodup hnodup

theorem mem_credentialRows {s : Settings} {row : String × List (String × String)} (h : row ∈ credentialRows s space) :
    row = apiRow s space ∨ row = databaseRow s space ∨ row = storageRow s space := by
  unfold credentialRows at h
  split at h
  · exact .inr (by simpa using h)
  · simpa using h

theorem names_values (s : Settings) (space : String) :
    ((Credentials.values s space).map (·.1)).Nodup ∧
      ∀ name ∈ (Credentials.values s space).map (·.1), kindOf name = .credential := by
  rw [values_eq]
  refine ⟨nodup_names_credentialRows s space, fun name hm => ?_⟩
  obtain ⟨row, hrow, rfl⟩ := List.mem_map.mp hm
  have hkind (a : String) {b : String} (h3 : 3 ≤ b.toList.length)
      (hb : Kind.ofEnding (ending 3 b) = .credential) : kindOf (a ++ b) = .credential :=
    (kindOf_append a h3).trans hb
  rcases mem_credentialRows hrow with rfl | rfl | rfl
  · exact hkind _ (b := "-db-credentials") (by decide) (by decide)
  · exact hkind _ (b := "-postgres-db-credentials") (by decide) (by decide)
  · exact hkind _ (b := "-s3-credentials") (by decide) (by decide)

theorem of_mem_credentialRecords {s : Settings} (h : r ∈ credentialRecords s space) :
    r.space = space ∧ kindOf r.name = .credential := by
  obtain ⟨e, he, rfl⟩ := List.mem_map.mp h
  exact ⟨rfl, (names_values s space).2 e.1 (List.mem_map_of_mem he)⟩

theorem nodup_names_credentialRecords (s : Settings) (space : String) :
    ((credentialRecords s space).map (·.name)).Nodup := by
  have hnames : (credentialRecords s space).map (·.name) = (Credentials.values s space).map (·.1) := by
    simp [credentialRecords, literalRecord]
  exact hnames ▸ (names_values s space).1

/-! ## No clashes -/

theorem mem_roleRecords {role : Role} (h : r ∈ roleRecords t authority space p role) :
    r = primaryRecord t authority space p role ∨ r ∈ auxiliaryRecords t authority space := by
  rcases List.mem_cons.mp h with rfl | h
  · exact .inl rfl
  · split at h
    · exact .inr h
    · cases h

/-- A record of a deployment is the secret of a role, one of a broker's, or one of those that are not
about services. -/
theorem mem_deployRecords {s : Settings} {tlsOnly : Bool} {ps : List Profile}
    (h : r ∈ deployRecords t s space tlsOnly ps) :
    (∃ p ∈ ps, ∃ role, r = primaryRecord t (Pipeline.authorityFiles s) (targetSpace s space p.name) p role) ∨
      (∃ target, r ∈ auxiliaryRecords t (Pipeline.authorityFiles s) target) ∨
      r = tokenRecord t s space ∨ r ∈ credentialRecords s space := by
  rcases List.mem_append.mp h with h | h
  · obtain ⟨p, hp, h⟩ := List.mem_flatMap.mp h
    obtain ⟨role, -, h⟩ := List.mem_flatMap.mp h
    rcases mem_roleRecords h with rfl | h
    · exact .inl ⟨p, hp, role, rfl⟩
    · exact .inr (.inl ⟨_, h⟩)
  · split at h
    · cases h
    · exact .inr (.inr (List.mem_cons.mp h))

theorem primaryRecord_mem_deployRecords {s : Settings} {tlsOnly : Bool} {ps : List Profile} (hp : p ∈ ps)
    {role : Role} (hrole : role ∈ Role.all) :
    primaryRecord t (Pipeline.authorityFiles s) (targetSpace s space p.name) p role ∈
      deployRecords t s space tlsOnly ps := by
  refine List.mem_append_left _ (List.mem_flatMap.mpr ⟨p, hp, List.mem_flatMap.mpr ⟨role, hrole, ?_⟩⟩)
  exact List.mem_cons_self ..

theorem kindOf_mem_deployRecords {s : Settings} {tlsOnly : Bool} {ps : List Profile}
    (h : r ∈ deployRecords t s space tlsOnly ps) :
    match kindOf r.name with
    | .primary => ∃ p ∈ ps, ∃ role,
        r = primaryRecord t (Pipeline.authorityFiles s) (targetSpace s space p.name) p role
    | .auxiliary => ∃ target, r ∈ auxiliaryRecords t (Pipeline.authorityFiles s) target
    | .token => r = tokenRecord t s space
    | .credential => r ∈ credentialRecords s space := by
  rcases mem_deployRecords h with ⟨p, hp, role, rfl⟩ | ⟨target, h⟩ | rfl | h
  · rw [show kindOf (primaryRecord t _ _ p role).name = .primary from kindOf_secretName p.name role]
    exact ⟨p, hp, role, rfl⟩
  · rw [(of_mem_auxiliaryRecords h).2]
    exact ⟨target, h⟩
  · rw [kindOf_tokenRecord]
  · rw [(of_mem_credentialRecords h).2]
    exact h

/-- Where the services have different names, no record of a deployment takes the place of another. -/
theorem consistent_deployRecords {s : Settings} {tlsOnly : Bool} {ps : List Profile}
    (hnames : (ps.map (·.name)).Nodup) : Consistent (deployRecords t s space tlsOnly ps) := by
  intro a ha b hb hname hspace
  have hka := kindOf_mem_deployRecords ha
  have hkb := kindOf_mem_deployRecords hb
  rw [← hname] at hkb
  cases hk : kindOf a.name with
  | primary =>
    rw [hk] at hka hkb
    obtain ⟨p, hp, role, rfl⟩ := hka
    obtain ⟨q, hq, role', rfl⟩ := hkb
    obtain ⟨hpq, rfl⟩ := secretName_inj hname
    rw [List.inj_on_of_nodup_map hnames hp hq hpq]
  | auxiliary =>
    rw [hk] at hka hkb
    obtain ⟨target, ha⟩ := hka
    obtain ⟨target', hb⟩ := hkb
    obtain rfl : target = target' :=
      (of_mem_auxiliaryRecords ha).1.symm.trans (hspace.trans (of_mem_auxiliaryRecords hb).1)
    exact List.inj_on_of_nodup_map nodup_names_auxiliaryRecords ha hb hname
  | token =>
    rw [hk] at hka hkb
    exact hka.trans hkb.symm
  | credential =>
    rw [hk] at hka hkb
    exact List.inj_on_of_nodup_map (nodup_names_credentialRecords s space) hka hkb hname

end Publish

end ServiceTrust
