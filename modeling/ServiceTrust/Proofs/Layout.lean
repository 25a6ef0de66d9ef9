/-
The names of generated files. They are proper names with an ending that clearing goes by, no two
roles or kinds share one, and none of them is the name of a descriptor, of an authority's file or of
a token key: what is written for one purpose is written over by no other.
-/
import ServiceTrust.Pipeline.TokenKeys
import ServiceTrust.Proofs.Path
import ServiceTrust.Proofs.Tree.Clear

namespace ServiceTrust

open ServiceTrust.Tree

namespace Artifact

/-- The files that issuing writes. -/
def issued : List Artifact := [cert, key, csr]

/-- The files that packing writes. -/
def packed : List Artifact :=
  [chain, keystoreP12, truststoreP12, keystoreJks, truststoreJks, password, jksPassword]

/-- The packed files that are not the chain. -/
def stores : List Artifact :=
  [keystoreP12, truststoreP12, keystoreJks, truststoreJks, password, jksPassword]

/-- The packed files that are made with the tool, after all others. -/
def converted : List Artifact := [truststoreP12, keystoreJks, truststoreJks, jksPassword]

end Artifact

namespace AuthorityLayout

def certName : String := "ca.pem"

def keyName : String := "ca-key.pem"

def csrName : String := "ca.csr"

/-- The names of an authority's files. -/
def names : List String := [certName, keyName, csrName]

end AuthorityLayout

/-- The names of the token keys. -/
def TokenKeys.names : List String := ["private-key-pkcs8.pem", "public-key.pem"]

namespace ServiceLayout

def authorityFileName (r : Role) : String := r.name ++ "-ca.tmp.pem"

/-- The names of the files `as` of a role, and of the one that is there while they are made. -/
def namesFor (r : Role) (as : List Artifact) : List String :=
  authorityFileName r :: as.map (Artifact.fileName r)

/-- The places of the files `as` of a role in the directory `d`. -/
def placesFor (d : Location) (r : Role) (as : List Artifact) : Set Location :=
  placesNamed d (namesFor r as)

end ServiceLayout

/-! ## What the names are like -/

theorem isName_fileName (r : Role) (a : Artifact) : isName (Artifact.fileName r a) = true := by
  have hall : ∀ r ∈ Role.all, ∀ a ∈ Artifact.all, isName (Artifact.fileName r a) = true := by
    decide
  exact hall r r.mem_all a a.mem_all

theorem isPart_fileName (r : Role) (a : Artifact) : isPart (Artifact.fileName r a) = true :=
  isPart_of_isName (isName_fileName r a)

theorem isName_authorityFileName (r : Role) : isName (ServiceLayout.authorityFileName r) = true := by
  have hall : ∀ r ∈ Role.all, isName (ServiceLayout.authorityFileName r) = true := by decide
  exact hall r r.mem_all

theorem isStale_namesFor {r : Role} {as : List Artifact} {name : String}
    (h : name ∈ ServiceLayout.namesFor r as) : isStale name = true := by
  have hall : ∀ r ∈ Role.all, isStale (ServiceLayout.authorityFileName r) = true ∧
      ∀ a ∈ Artifact.all, isStale (Artifact.fileName r a) = true := by decide
  rcases List.mem_cons.mp h with rfl | h
  · exact (hall r r.mem_all).1
  · obtain ⟨a, -, rfl⟩ := List.mem_map.mp h
    exact (hall r r.mem_all).2 a a.mem_all

theorem authority_names_proper : ∀ name ∈ AuthorityLayout.names,
    isName name = true ∧ isStale name = true := by decide

theorem tokenKeys_names_proper : ∀ name ∈ TokenKeys.names,
    isName name = true ∧ isStale name = true := by decide

theorem descriptorName_proper :
    isName ServiceLayout.descriptorName = true ∧ isStale ServiceLayout.descriptorName = false := by
  decide

theorem fileName_inj {r s : Role} {a b : Artifact} :
    Artifact.fileName r a = Artifact.fileName s b ↔ r = s ∧ a = b := by
  have hall : ∀ r ∈ Role.all, ∀ s ∈ Role.all, ∀ a ∈ Artifact.all, ∀ b ∈ Artifact.all,
      Artifact.fileName r a = Artifact.fileName s b → r = s ∧ a = b := by decide
  constructor
  · exact hall r r.mem_all s s.mem_all a a.mem_all b b.mem_all
  · rintro ⟨rfl, rfl⟩
    rfl

theorem fileName_ne_authorityFileName (r s : Role) (a : Artifact) :
    Artifact.fileName r a ≠ ServiceLayout.authorityFileName s := by
  have hall : ∀ r ∈ Role.all, ∀ s ∈ Role.all, ∀ a ∈ Artifact.all,
      Artifact.fileName r a ≠ ServiceLayout.authorityFileName s := by decide
  exact hall r r.mem_all s s.mem_all a a.mem_all

theorem fileName_mem_namesFor {r s : Role} {a : Artifact} {as : List Artifact} :
    Artifact.fileName s a ∈ ServiceLayout.namesFor r as ↔ s = r ∧ a ∈ as := by
  simp only [ServiceLayout.namesFor, List.mem_cons, fileName_ne_authorityFileName, false_or, List.mem_map,
    fileName_inj]
  constructor
  · rintro ⟨b, hb, rfl, rfl⟩
    exact ⟨rfl, hb⟩
  · rintro ⟨rfl, ha⟩
    exact ⟨a, ha, rfl, rfl⟩

/-- What is written for a role has no name of an authority's file or of a token key. -/
theorem fileName_apart (r : Role) (a : Artifact) :
    Artifact.fileName r a ∉ AuthorityLayout.names ++ TokenKeys.names := by
  have hall : ∀ r ∈ Role.all, ∀ a ∈ Artifact.all,
      Artifact.fileName r a ∉ AuthorityLayout.names ++ TokenKeys.names := by decide
  exact hall r r.mem_all a a.mem_all

theorem namesFor_apart {name : String} (h : name ∈ AuthorityLayout.names ++ TokenKeys.names) (r : Role) :
    name ∉ ServiceLayout.namesFor r Artifact.all := by
  have hall : ∀ name ∈ AuthorityLayout.names ++ TokenKeys.names, ∀ r ∈ Role.all,
      name ≠ ServiceLayout.authorityFileName r := by decide
  intro hm
  rcases List.mem_cons.mp hm with he | hm
  · exact hall name h r r.mem_all he
  · obtain ⟨a, -, rfl⟩ := List.mem_map.mp hm
    exact fileName_apart r a h

theorem authority_names_apart : ∀ name ∈ AuthorityLayout.names, name ∉ TokenKeys.names := by
  decide

/-! ## Places -/

theorem mem_placesNamed {d : Location} {names : List String} {name : String} :
    d ++ [name] ∈ placesNamed d names ↔ name ∈ names := by
  constructor
  · rintro ⟨m, hm, he⟩
    obtain rfl : name = m := by simpa using he
    exact hm
  · exact fun h => ⟨name, h, rfl⟩

theorem placesNamed_disjoint {d d' : Location} {names names' : List String}
    (h : ∀ name ∈ names, name ∉ names') {l : Location} (hl : l ∈ placesNamed d names) :
    l ∉ placesNamed d' names' := by
  obtain ⟨name, hn, rfl⟩ := hl
  rintro ⟨name', hn', he⟩
  obtain ⟨-, rfl⟩ : d = d' ∧ name = name' := by simpa using he
  exact h name hn hn'

theorem placesNamed_subset_stale {d : Location} {names : List String}
    (h : ∀ name ∈ names, isName name = true ∧ isStale name = true) :
    placesNamed d names ⊆ stalePlaces d := by
  rintro l ⟨name, hn, rfl⟩
  exact (mem_stalePlaces (h name hn).1).mpr (h name hn).2

/-- What does not have the ending of a generated file is in no place of one. -/
theorem place_child_not_stale {d : Path} {name : String} (hname : isName name = true) (hstale : isStale name = false)
    (d' : Location) : (d.child name).place ∉ stalePlaces d' := by
  rw [d.place_child_name hname]
  rintro ⟨m, -, hm, he⟩
  obtain ⟨-, rfl⟩ : d.place = d' ∧ name = m := by simpa using he
  exact Bool.false_ne_true (hstale.symm.trans hm)

/-- Generated files of two directories are apart. -/
theorem stalePlaces_disjoint {d d' : Location} (h : d ≠ d') {l : Location} (hl : l ∈ stalePlaces d) :
    l ∉ stalePlaces d' := by
  obtain ⟨name, -, -, rfl⟩ := hl
  rintro ⟨name', -, -, he⟩
  exact h (List.append_inj_left' he rfl)

namespace ServiceLayout

theorem place_path (l : ServiceLayout) (r : Role) (a : Artifact) :
    (l.path r a).place = l.directory.place ++ [Artifact.fileName r a] :=
  l.directory.place_child_name (isName_fileName r a)

theorem parent_path (l : ServiceLayout) (r : Role) (a : Artifact) : (l.path r a).parent = l.directory :=
  l.directory.parent_child (isPart_fileName r a)

theorem place_authorityFile (l : ServiceLayout) (r : Role) :
    (l.authorityFile r).place = l.directory.place ++ [authorityFileName r] :=
  l.directory.place_child_name (isName_authorityFileName r)

/-- No generated file has the place of a descriptor. -/
theorem place_descriptor_not_stale (l : ServiceLayout) (d : Location) : l.descriptor.place ∉ stalePlaces d :=
  place_child_not_stale descriptorName_proper.1 descriptorName_proper.2 d

theorem place_path_mem {l : ServiceLayout} {d : Location} {r s : Role} {a : Artifact} {as : List Artifact} :
    (l.path s a).place ∈ placesFor d r as ↔ l.directory.place = d ∧ s = r ∧ a ∈ as := by
  rw [place_path, ← fileName_mem_namesFor]
  constructor
  · rintro ⟨name, hn, he⟩
    obtain ⟨rfl, rfl⟩ : l.directory.place = d ∧ Artifact.fileName s a = name := by simpa using he
    exact ⟨rfl, hn⟩
  · rintro ⟨rfl, hn⟩
    exact mem_placesNamed.mpr hn

theorem place_authorityFile_mem (l : ServiceLayout) (r : Role) (as : List Artifact) :
    (l.authorityFile r).place ∈ placesFor l.directory.place r as := by
  rw [place_authorityFile]
  exact mem_placesNamed.mpr (List.mem_cons_self ..)

theorem placesFor_mono {as bs : List Artifact} (h : as ⊆ bs) (d : Location) (r : Role) :
    placesFor d r as ⊆ placesFor d r bs := by
  rintro l ⟨name, hn, rfl⟩
  refine mem_placesNamed.mpr ?_
  rcases List.mem_cons.mp hn with rfl | hn
  · exact List.mem_cons_self ..
  · exact List.mem_cons_of_mem _ (List.map_subset _ h hn)

theorem subset_all (as : List Artifact) : as ⊆ Artifact.all := fun a _ => a.mem_all

theorem placesFor_disjoint {d d' : Location} {r r' : Role} {as bs : List Artifact} (h : r ≠ r') {l : Location}
    (hl : l ∈ placesFor d r as) : l ∉ placesFor d' r' bs := by
  have hall : ∀ r ∈ Role.all, ∀ r' ∈ Role.all, r ≠ r' →
      ∀ name ∈ namesFor r Artifact.all, name ∉ namesFor r' Artifact.all := by decide
  have hdisjoint : l ∉ placesFor d' r' Artifact.all := placesNamed_disjoint (hall r r.mem_all r' r'.mem_all h)
    (placesFor_mono (subset_all as) d r hl)
  exact fun hm => hdisjoint (placesFor_mono (subset_all bs) d' r' hm)

theorem place_path_ne {l : ServiceLayout} {r : Role} {a b : Artifact} (h : a ≠ b) :
    (l.path r a).place ≠ (l.path r b).place := by
  rw [place_path, place_path]
  intro he
  have hname : Artifact.fileName r a = Artifact.fileName r b := by simpa using he
  exact h (fileName_inj.mp hname).2

theorem place_path_ne_authorityFile (l : ServiceLayout) (r s : Role) (a : Artifact) :
    (l.path r a).place ≠ (l.authorityFile s).place := by
  rw [place_path, place_authorityFile]
  intro he
  exact fileName_ne_authorityFileName r s a (by simpa using he)

theorem placesFor_subset_stale (d : Location) (r : Role) (as : List Artifact) :
    placesFor d r as ⊆ stalePlaces d := by
  refine placesNamed_subset_stale fun name h => ⟨?_, isStale_namesFor h⟩
  rcases List.mem_cons.mp h with rfl | h
  · exact isName_authorityFileName r
  · obtain ⟨a, -, rfl⟩ := List.mem_map.mp h
    exact isName_fileName r a

end ServiceLayout

namespace AuthorityLayout

/-- The places of the files of the authority in the directory `d`. -/
def places (d : Location) : Set Location := placesNamed d names

theorem place_cert (l : AuthorityLayout) : l.cert.place = l.directory.place ++ [certName] :=
  l.directory.place_child_name (authority_names_proper certName (by simp [names])).1

theorem place_key (l : AuthorityLayout) : l.key.place = l.directory.place ++ [keyName] :=
  l.directory.place_child_name (authority_names_proper keyName (by simp [names])).1

theorem place_csr (l : AuthorityLayout) : l.csr.place = l.directory.place ++ [csrName] :=
  l.directory.place_child_name (authority_names_proper csrName (by simp [names])).1

theorem places_subset_stale (d : Location) : places d ⊆ stalePlaces d :=
  placesNamed_subset_stale authority_names_proper

end AuthorityLayout

namespace TokenKeys

/-- The places of the token keys in the directory `d`. -/
def places (d : Location) : Set Location := placesNamed d names

theorem place_private (d : Path) : (d.child privateName).place = d.place ++ [privateName] :=
  d.place_child_name (tokenKeys_names_proper privateName (by decide)).1

theorem place_public (d : Path) : (d.child publicName).place = d.place ++ [publicName] :=
  d.place_child_name (tokenKeys_names_proper publicName (by decide)).1

theorem places_subset_stale (d : Location) : places d ⊆ stalePlaces d :=
  placesNamed_subset_stale tokenKeys_names_proper

end TokenKeys

/-- No file of a role has the place of a token key. -/
theorem ServiceLayout.placesFor_apart {d d' : Location} {r : Role} {as : List Artifact} {l : Location}
    (hl : l ∈ placesFor d r as) : l ∉ TokenKeys.places d' := fun hm =>
  placesNamed_disjoint (fun _ hname => namesFor_apart (List.mem_append_right _ hname) r) hm
    (placesFor_mono (subset_all as) d r hl)

end ServiceTrust
