/-
What a secret's entry is made from. The bindings that the entries of a secret are built from are listed
with their keys apart from the name of the service (`Key`) and their files apart from its directory
(`Source`), so whether a key has a certain file for every service can be decided once
(`Publish.binds`) and holds of every secret (`lookup_dataEntries`).
-/
import ServiceTrust.Proofs.Lookup
import ServiceTrust.Publish.Entries

namespace ServiceTrust

namespace Entries

variable {es more : Entries} {key k : String} {p v : Path}

@[simp] theorem lookup_set : (es.set key p).lookup k = if k = key then some p else es.lookup k := by
  unfold set
  rw [← Lookup.isSome_lookup]
  exact Lookup.lookup_set

@[simp] theorem lookup_erase : (es.erase key).lookup k = if k = key then none else es.lookup k :=
  Lookup.lookup_filter_ne

/-- Where the later bindings of a key agree, and there is one, the key has their file. -/
theorem lookup_setAll (h : ∀ e ∈ more, e.1 = k → e.2 = v)
    (hsome : es.lookup k = some v ∨ ∃ e ∈ more, e.1 = k) : (es.setAll more).lookup k = some v := by
  induction more generalizing es with
  | nil => exact hsome.resolve_right fun ⟨_, hm, _⟩ => nomatch hm
  | cons e more ih =>
    refine ih (fun f hf => h f (List.mem_cons_of_mem _ hf)) ?_
    have hfirst := h e (List.mem_cons_self ..)
    by_cases hk : k = e.1
    · exact .inl (by rw [lookup_set, if_pos hk, hfirst hk.symm])
    · rcases hsome with hes | ⟨f, hf, hfk⟩
      · exact .inl (by rw [lookup_set, if_neg hk, hes])
      · rcases List.mem_cons.mp hf with rfl | hf
        · exact absurd hfk.symm hk
        · exact .inr ⟨f, hf, hfk⟩

theorem mem_set {e : String × Path} (h : e ∈ es.set key p) : e ∈ es ∨ e = (key, p) := by
  unfold set at h
  split at h
  · obtain ⟨f, hf, rfl⟩ := List.mem_map.mp h
    split
    · exact .inr rfl
    · exact .inl hf
  · simpa using h

theorem mem_setAll {e : String × Path} (h : e ∈ es.setAll more) : e ∈ es ∨ e ∈ more := by
  induction more generalizing es with
  | nil => exact .inl h
  | cons f more ih =>
    rcases ih h with h | h
    · rcases mem_set h with h | rfl
      · exact .inl h
      · exact .inr (List.mem_cons_self ..)
    · exact .inr (List.mem_cons_of_mem _ h)

end Entries

namespace Publish

/-! ## Keys and sources -/

/-- A key of a secret: a text of its own, or the name of the service with an ending. -/
inductive Key where
  | fixed (text : String)
  | ofService (suffix : String)
  deriving DecidableEq, Repr

/-- What is behind a key: a file of the authority, or one of the service. -/
inductive Source where
  | authorityCert
  | authorityKey
  | file (r : Role) (a : Artifact)
  deriving DecidableEq, Repr

def Key.text (service : String) : Key → String
  | fixed text => text
  | ofService suffix => service ++ suffix

def Source.path (l : ServiceLayout) (authority : AuthorityFiles) : Source → Path
  | authorityCert => authority.cert
  | authorityKey => authority.key
  | file r a => l.path r a

/-- The last characters of a text, last first. -/
def ending (n : Nat) (s : String) : List Char := s.toList.reverse.take n

theorem ending_append (n : Nat) (a : String) {b : String} (h : n ≤ b.toList.length) :
    ending n (a ++ b) = ending n b := by
  unfold ending
  rw [String.toList_append, List.reverse_append, List.take_append_of_le_length (by simpa using h)]

/-- The keys are different for every service. -/
def Key.apart : Key → Key → Bool
  | fixed s, fixed t => s ≠ t
  | ofService s, ofService t => s ≠ t
  | fixed s, ofService t | ofService t, fixed s => 5 ≤ t.toList.length && ending 5 s ≠ ending 5 t

theorem Key.text_ne {k k' : Key} (h : k.apart k' = true) (service : String) :
    k.text service ≠ k'.text service := by
  have hmixed {s t : String} (h : (5 ≤ t.toList.length && ending 5 s ≠ ending 5 t) = true) :
      s ≠ service ++ t := by
    simp only [Bool.and_eq_true, decide_eq_true_eq] at h
    rintro rfl
    exact h.2 (ending_append 5 service h.1)
  cases k <;> cases k'
  · simpa [apart, text] using h
  · exact hmixed h
  · exact (hmixed h).symm
  · simpa [apart, text] using h

/-! ## Bindings -/

abbrev Bindings := List (Key × Source)

/-- The bindings for a service in its directory. -/
def Bindings.entries (p : Profile) (authority : AuthorityFiles) (bs : Bindings) : Entries :=
  bs.map fun b => (b.1.text p.name, b.2.path p.layout authority)

/-- The bindings that all conventions start from. -/
def commonBindings (r : Role) : Bindings :=
  [(.ofService "-ca.pem", .authorityCert), (.ofService "-crt.pem", .file r .cert),
    (.ofService "-key.pem", .file r .key), (.fixed "caCert", .authorityCert),
    (.fixed "caKey", .authorityKey)] ++
    [Role.server, Role.client].flatMap fun shared =>
      [(.fixed (shared.name ++ "-keystore.p12"), .file shared .keystoreP12),
        (.fixed (shared.name ++ "-truststore.p12"), .file shared .truststoreP12),
        (.fixed (shared.name ++ "-cert-chain.pem"), .file shared .chain),
        (.fixed (shared.name ++ "-keystore-password"), .file shared .password)]

/-- The common keys that a convention drops. -/
def droppedKeys : Convention → List Key
  | .containerKeys => [.ofService "-crt.pem", .ofService "-key.pem"]
  | _ => []

def pairBindings (roles : List Role) : Bindings :=
  roles.flatMap fun r =>
    [(.fixed (r.name ++ "Cert"), .file r .cert), (.fixed (r.name ++ "Key"), .file r .key)]

/-- The bindings that a convention adds for a role. -/
def addedBindings : Convention → Role → Bindings
  | .containerKeys, _ =>
    [(.fixed "server.cert", .file .server .cert), (.fixed "server.key", .file .server .key)]
  | .brokerOperator, .server =>
    [(.fixed "keystore.jks", .file .server .keystoreJks),
      (.fixed "truststore.jks", .file .server .truststoreJks),
      (.fixed "password", .file .server .password), (.fixed "ca.crt", .authorityCert),
      (.fixed "tls.crt", .file .server .cert), (.fixed "tls.key", .file .server .key)] ++
      pairBindings [.client, .peer, .server]
  | .brokerOperator, .client =>
    [(.fixed "ca.crt", .authorityCert), (.fixed "tls.crt", .file .client .cert),
      (.fixed "tls.key", .file .client .key)] ++ pairBindings [.client, .peer] ++
      [(.fixed "kafka-ca.pem", .authorityCert), (.fixed "kafka-crt.pem", .file .client .cert),
        (.fixed "kafka-key.pem", .file .client .key)]
  | _, _ => []

variable {p : Profile} {r : Role} {authority : AuthorityFiles}

theorem commonEntries_eq (p : Profile) (r : Role) (authority : AuthorityFiles) :
    commonEntries p r authority = Entries.setAll [] ((commonBindings r).entries p authority) := by
  simp [commonEntries, commonBindings, Bindings.entries, Key.text, Source.path]

theorem dataEntries_eq (p : Profile) (r : Role) (authority : AuthorityFiles) :
    dataEntries p r authority =
      (((droppedKeys p.convention).foldl (fun es k => Entries.erase es (k.text p.name))
        (Entries.setAll [] ((commonBindings r).entries p authority))).setAll
        ((addedBindings p.convention r).entries p authority)) := by
  unfold dataEntries
  rw [commonEntries_eq]
  cases p.convention <;> cases r <;>
    simp [droppedKeys, addedBindings, Bindings.entries, Key.text, Source.path, rolePairs, pairBindings,
      Entries.setAll]

/-- In every secret of the convention and role, the key has the file of the source. -/
def binds (c : Convention) (r : Role) (k : Key) (source : Source) : Bool :=
  ((commonBindings r ++ addedBindings c r).all fun b => b.1.apart k || b.2 = source) &&
    ((addedBindings c r).any (·.1 = k) ||
      (commonBindings r).any (·.1 = k) && (droppedKeys c).all (·.apart k))

theorem lookup_dataEntries {k : Key} {source : Source} (h : binds p.convention r k source = true) :
    (dataEntries p r authority).lookup (k.text p.name) = some (source.path p.layout authority) := by
  simp only [binds, Bool.and_eq_true, List.all_append, List.all_eq_true, Bool.or_eq_true,
    decide_eq_true_eq, List.any_eq_true] at h
  obtain ⟨⟨hcommon, hadded⟩, hsome⟩ := h
  have hagree {bs : Bindings} (hbs : ∀ b ∈ bs, b.1.apart k = true ∨ b.2 = source) :
      ∀ e ∈ bs.entries p authority, e.1 = k.text p.name → e.2 = source.path p.layout authority := by
    intro e he hk
    obtain ⟨b, hb, rfl⟩ := List.mem_map.mp he
    rcases hbs b hb with ha | rfl
    · exact absurd hk (Key.text_ne ha p.name)
    · rfl
  have hthere {bs : Bindings} (hbs : ∃ b ∈ bs, b.1 = k) :
      ∃ e ∈ bs.entries p authority, e.1 = k.text p.name := by
    obtain ⟨b, hb, rfl⟩ := hbs
    exact ⟨_, List.mem_map_of_mem hb, rfl⟩
  have herase {ks : List Key} (hks : ∀ d ∈ ks, d.apart k = true) (es : Entries) :
      (ks.foldl (fun es d => Entries.erase es (d.text p.name)) es).lookup (k.text p.name) =
        es.lookup (k.text p.name) := by
    induction ks generalizing es with
    | nil => rfl
    | cons d ks ih =>
      rw [List.foldl_cons, ih (fun d hd => hks d (List.mem_cons_of_mem _ hd)), Entries.lookup_erase,
        if_neg (Key.text_ne (hks d (List.mem_cons_self ..)) p.name).symm]
  rw [dataEntries_eq]
  refine Entries.lookup_setAll (hagree hadded) ?_
  rcases hsome with hadd | ⟨hcom, hdrop⟩
  · exact .inr (hthere hadd)
  · exact .inl ((herase hdrop _).trans (Entries.lookup_setAll (hagree hcommon) (.inr (hthere hcom))))

/-- Every entry of a secret is one of its bindings. -/
theorem mem_dataEntries {e : String × Path} (h : e ∈ dataEntries p r authority) :
    ∃ b ∈ commonBindings r ++ addedBindings p.convention r,
      e = (b.1.text p.name, b.2.path p.layout authority) := by
  have hin {bs : Bindings} (he : e ∈ bs.entries p authority) :
      ∃ b ∈ bs, e = (b.1.text p.name, b.2.path p.layout authority) := by
    obtain ⟨b, hb, rfl⟩ := List.mem_map.mp he
    exact ⟨b, hb, rfl⟩
  have herase {ks : List Key} {es : Entries}
      (he : e ∈ ks.foldl (fun es d => Entries.erase es (d.text p.name)) es) : e ∈ es := by
    induction ks generalizing es with
    | nil => exact he
    | cons d ks ih => exact (List.mem_filter.mp (ih he)).1
  rw [dataEntries_eq] at h
  rcases Entries.mem_setAll h with h | h
  · rcases Entries.mem_setAll (herase h) with h | h
    · cases h
    · obtain ⟨b, hb, he⟩ := hin h
      exact ⟨b, List.mem_append_left _ hb, he⟩
  · obtain ⟨b, hb, he⟩ := hin h
    exact ⟨b, List.mem_append_right _ hb, he⟩

/-! ## The entries of trust -/

/-- The key of the certificate. -/
def certKey : Convention → Key
  | .containerKeys => .fixed "server.cert"
  | _ => .ofService "-crt.pem"

/-- The key of the private key. -/
def keyKey : Convention → Key
  | .containerKeys => .fixed "server.key"
  | _ => .ofService "-key.pem"

/-- The role whose certificate and key a secret holds. -/
def certRole (c : Convention) (r : Role) : Role :=
  match c with
  | .containerKeys => .server
  | _ => r

def authorityKeyName : Key := .ofService "-ca.pem"

def chainKey (r : Role) : Key := .fixed (r.name ++ "-cert-chain.pem")

def keystoreKey (r : Role) : Key := .fixed (r.name ++ "-keystore.p12")

def passwordKey (r : Role) : Key := .fixed (r.name ++ "-keystore-password")

theorem binds_authority (c : Convention) (r : Role) : binds c r authorityKeyName .authorityCert = true := by
  cases c <;> cases r <;> decide

theorem binds_cert (c : Convention) (r : Role) :
    binds c r (certKey c) (.file (certRole c r) .cert) = true := by
  cases c <;> cases r <;> decide

theorem binds_key (c : Convention) (r : Role) :
    binds c r (keyKey c) (.file (certRole c r) .key) = true := by
  cases c <;> cases r <;> decide

/-- Of the roles that services share with others, every secret holds chain, store and password. -/
theorem binds_shared (c : Convention) (r : Role) {shared : Role} (h : shared ∈ [Role.server, Role.client]) :
    binds c r (chainKey shared) (.file shared .chain) = true ∧
      binds c r (keystoreKey shared) (.file shared .keystoreP12) = true ∧
      binds c r (passwordKey shared) (.file shared .password) = true := by
  have hall : ∀ shared ∈ [Role.server, Role.client],
      binds c r (chainKey shared) (.file shared .chain) = true ∧
        binds c r (keystoreKey shared) (.file shared .keystoreP12) = true ∧
        binds c r (passwordKey shared) (.file shared .password) = true := by
    cases c <;> cases r <;> decide
  exact hall shared h

end Publish

end ServiceTrust
