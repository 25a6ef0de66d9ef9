/-
Which services a run finds. Discovery is a function of the files alone (`profilesIn`): the direct
subdirectories with a service descriptor, by name, each loaded from its descriptor. It changes nothing,
and no generated file has the name of a descriptor, so a build neither adds nor removes a service.
-/
import ServiceTrust.Pipeline.Build
import ServiceTrust.Proofs.Layout
import ServiceTrust.Proofs.Stage

namespace ServiceTrust

open Stage ServiceTrust.Tree

namespace Discovery

/-! ## Discovery as a function -/

/-- The service directory `name` of `d`. -/
def layoutOf (d : Path) (name : String) : ServiceLayout := ⟨d.child name⟩

/-- The names of the services of the directory `d`, increasing. -/
def serviceNames (t : Tree) (d : Path) : List String :=
  (directories t d).filter fun name => t.isFile (layoutOf d name).descriptor

/-- The service `name` of `d`, from its descriptor. -/
def profileIn (t : Tree) (d : Path) (deploySpace defaultSpace name : String) :
    Except Descriptor.Fault Profile :=
  (Descriptor.loadService t (layoutOf d name).descriptor).map
    (profileOf d name deploySpace defaultSpace)

/-- The services of the directory `d`, by name. -/
def profilesIn (t : Tree) (d : Path) (deploySpace defaultSpace : String) :
    Except Descriptor.Fault (List Profile) :=
  (serviceNames t d).mapM (profileIn t d deploySpace defaultSpace)

variable {σ : Type} {t t' : Tree} {d : Path} {deploySpace defaultSpace name : String}

theorem mem_serviceNames :
    name ∈ serviceNames t d ↔ isName name = true ∧ t.isDirectory (d.child name) = true ∧
      t.isFile (layoutOf d name).descriptor = true := by
  simp only [serviceNames, directories, List.mem_filter, Tree.mem_sortedNames]
  constructor
  · rintro ⟨⟨⟨-, hn, -⟩, hdir⟩, hf⟩
    exact ⟨hn, hdir, hf⟩
  · rintro ⟨hn, hdir, hf⟩
    have hp := isDirectory_of_locate_child (isPart_of_isName hn) (isDirectory_iff.mp hdir).1
    refine ⟨⟨⟨hp, hn, ?_⟩, hdir⟩, hf⟩
    rw [← d.place_child_name hn, (isDirectory_iff.mp hdir).2]
    rfl

theorem nodup_serviceNames (t : Tree) (d : Path) : (serviceNames t d).Nodup :=
  ((nodup_sortedNames t d).filter _).filter _

theorem increasing_serviceNames (t : Tree) (d : Path) : (serviceNames t d).Pairwise (· < ·) :=
  ((Tree.sortedNames_increasing t d).filter _).filter _

theorem pairwise_serviceNames (t : Tree) (d : Path) : (serviceNames t d).Pairwise (· ≤ ·) :=
  (increasing_serviceNames t d).imp fun hlt => String.not_lt.mp (String.lt_asymm hlt)

theorem exec_profilesAmong (d : Path) (deploySpace defaultSpace : String) (names : List String) (w : World σ) :
    ∃ log, (profilesAmong d deploySpace defaultSpace names).exec w =
      (((names.filter fun name => w.tree.isFile (layoutOf d name).descriptor).mapM
          (profileIn w.tree d deploySpace defaultSpace)).mapError fun f => .fault (.descriptor f),
        { w with log := log }) := by
  induction names generalizing w with
  | nil => exact ⟨w.log, rfl⟩
  | cons name names ih =>
    unfold profilesAmong
    rw [exec_bind, exec_tree, List.filter_cons]
    dsimp only
    by_cases hf : w.tree.isFile (layoutOf d name).descriptor = true
    · rw [if_pos hf, if_pos (by exact hf), List.mapM_cons, profileIn]
      cases hl : Descriptor.loadService w.tree (layoutOf d name).descriptor with
      | error fault =>
        unfold layoutOf at hl
        rw [hl]
        exact ⟨w.log, rfl⟩
      | ok descriptor =>
        unfold layoutOf at hl
        obtain ⟨log, hrest⟩ := ih w
        refine ⟨log, ?_⟩
        rw [hl]
        dsimp only
        rw [exec_bind, hrest]
        generalize List.mapM (profileIn w.tree d deploySpace defaultSpace) _ = outcome
        cases outcome <;> rfl
    · rw [if_neg hf, if_neg (by exact hf), exec_bind, exec_log]
      exact ih _

theorem serviceNames_of_not_isDirectory (h : t.isDirectory d = false) : serviceNames t d = [] := by
  refine List.eq_nil_iff_forall_not_mem.mpr fun name hm => ?_
  obtain ⟨hname, hdir, -⟩ := mem_serviceNames.mp hm
  rw [isDirectory_of_locate_child (isPart_of_isName hname) (isDirectory_iff.mp hdir).1] at h
  cases h

/-! ## What is found -/

theorem mapM_eq_ok {ε α β : Type} {f : α → Except ε β} {xs : List α} {ys : List β} :
    xs.mapM f = .ok ys ↔ List.Forall₂ (fun x y => f x = .ok y) xs ys := by
  induction xs generalizing ys with
  | nil => exact ⟨fun h => by cases h; exact .nil, fun h => by cases h; rfl⟩
  | cons x xs ih =>
    rw [List.mapM_cons]
    cases hx : f x with
    | error e =>
      refine ⟨fun h => (nomatch h), fun h => ?_⟩
      cases h with
      | cons hy _ => rw [hx] at hy; cases hy
    | ok y =>
      constructor
      · intro h
        cases hxs : xs.mapM f with
        | error e => rw [hxs] at h; cases h
        | ok zs =>
          rw [hxs] at h
          cases h
          exact .cons hx (ih.mp hxs)
      · intro h
        cases h with
        | cons hy hys =>
          rw [hx] at hy
          cases hy
          rw [ih.mpr hys]
          rfl

theorem map_mapM {ε α β γ : Type} (g : α → Except ε β) (k : β → γ) (xs : List α) :
    (xs.mapM g).map (List.map k) = xs.mapM fun x => (g x).map k := by
  induction xs with
  | nil => rfl
  | cons x xs ih =>
    rw [List.mapM_cons, List.mapM_cons, ← ih]
    cases g x with
    | error e => rfl
    | ok y => cases xs.mapM g <;> rfl

/-- A run over a list ends with the first error. -/
theorem mapM_eq_error {ε α β : Type} {g : α → Except ε β} {e : ε} {xs : List α} (h : xs.mapM g = .error e) :
    ∃ before x after, xs = before ++ x :: after ∧ g x = .error e ∧ ∀ y ∈ before, ∃ b, g y = .ok b := by
  induction xs with
  | nil => cases h
  | cons x xs ih =>
    rw [List.mapM_cons] at h
    cases hx : g x with
    | error e' =>
      rw [hx] at h
      cases h
      exact ⟨[], x, xs, rfl, hx, nofun⟩
    | ok y =>
      rw [hx] at h
      cases hxs : xs.mapM g with
      | ok ys => rw [hxs] at h; cases h
      | error e' =>
        rw [hxs] at h
        cases h
        obtain ⟨before, x', after, rfl, hx', hbefore⟩ := ih hxs
        exact ⟨x :: before, x', after, rfl, hx', List.forall_mem_cons.mpr ⟨⟨y, hx⟩, hbefore⟩⟩

theorem profileIn_ok {p : Profile} (h : profileIn t d deploySpace defaultSpace name = .ok p) :
    ∃ descriptor, Descriptor.loadService t (layoutOf d name).descriptor = .ok descriptor ∧
      p = profileOf d name deploySpace defaultSpace descriptor := by
  unfold profileIn at h
  cases hl : Descriptor.loadService t (layoutOf d name).descriptor with
  | error f => rw [hl] at h; cases h
  | ok descriptor =>
    rw [hl] at h
    cases h
    exact ⟨descriptor, rfl, rfl⟩

theorem profilesIn_names {ps : List Profile} (h : profilesIn t d deploySpace defaultSpace = .ok ps) :
    ps.map (·.name) = serviceNames t d := by
  have hall := mapM_eq_ok.mp h
  clear h
  generalize serviceNames t d = names at hall ⊢
  induction hall with
  | nil => rfl
  | cons hp _ ih =>
    obtain ⟨descriptor, -, rfl⟩ := profileIn_ok hp
    rw [List.map_cons, ih]
    rfl

theorem mem_profilesIn {ps : List Profile} (h : profilesIn t d deploySpace defaultSpace = .ok ps)
    {p : Profile} (hp : p ∈ ps) :
    p.name ∈ serviceNames t d ∧ ∃ descriptor,
      Descriptor.loadService t (layoutOf d p.name).descriptor = .ok descriptor ∧
        p = profileOf d p.name deploySpace defaultSpace descriptor := by
  obtain ⟨name, hname, hpn⟩ := exists_of_forall₂ (mapM_eq_ok.mp h).flip hp
  obtain ⟨descriptor, hl, rfl⟩ := profileIn_ok hpn
  exact ⟨hname, descriptor, hl, rfl⟩

/-- A service that is listed was loaded. -/
theorem exists_mem_profilesIn {ps : List Profile} (h : profilesIn t d deploySpace defaultSpace = .ok ps)
    (hn : name ∈ serviceNames t d) : ∃ p ∈ ps, p.name = name ∧ ∃ descriptor,
      Descriptor.loadService t (layoutOf d name).descriptor = .ok descriptor ∧
        p = profileOf d name deploySpace defaultSpace descriptor := by
  obtain ⟨p, hp, rfl⟩ := List.mem_map.mp (profilesIn_names h ▸ hn)
  exact ⟨p, hp, rfl, (mem_profilesIn h hp).2⟩

theorem profileIn_error {f : Descriptor.Fault} (h : profileIn t d deploySpace defaultSpace name = .error f) :
    Descriptor.loadService t (layoutOf d name).descriptor = .error f := by
  unfold profileIn at h
  cases hload : Descriptor.loadService t (layoutOf d name).descriptor with
  | error f' =>
    rw [hload] at h
    cases h
    rfl
  | ok descriptor =>
    rw [hload] at h
    cases h

/-- Of services that were not found, the descriptor of one could not be loaded. -/
theorem exists_of_profilesIn_error {f : Descriptor.Fault}
    (h : profilesIn t d deploySpace defaultSpace = .error f) :
    ∃ name ∈ serviceNames t d, Descriptor.loadService t (layoutOf d name).descriptor = .error f := by
  obtain ⟨before, name, after, hnames, hprofile, -⟩ := mapM_eq_error h
  exact ⟨name, hnames ▸ by simp, profileIn_error hprofile⟩

theorem exists_profilesIn (deploySpace defaultSpace : String)
    (h : ∀ name ∈ serviceNames t d,
      ∃ descriptor, Descriptor.loadService t (layoutOf d name).descriptor = .ok descriptor) :
    ∃ ps, profilesIn t d deploySpace defaultSpace = .ok ps := by
  unfold profilesIn
  generalize serviceNames t d = names at h
  induction names with
  | nil => exact ⟨[], rfl⟩
  | cons name names ih =>
    obtain ⟨descriptor, hl⟩ := h name (List.mem_cons_self ..)
    obtain ⟨ps, hps⟩ := ih fun m hm => h m (List.mem_cons_of_mem _ hm)
    refine ⟨profileOf d name deploySpace defaultSpace descriptor :: ps, ?_⟩
    rw [List.mapM_cons, hps, profileIn, hl]
    rfl

/-! ## What stays as it was found -/

variable {files dirs : Set Location}

/-- Where only generated files change and no directory is made, the same services are found. -/
theorem mem_serviceNames_iff (h : Within files ∅ t t') (hfiles : (layoutOf d name).descriptor.place ∉ files) :
    name ∈ serviceNames t' d ↔ name ∈ serviceNames t d := by
  rw [mem_serviceNames, mem_serviceNames, h.isDirectory_eq, isFile_iff, isFile_iff, h.locate_iff]
  exact and_congr_right fun _ => and_congr_right fun _ => and_congr_right fun _ => h.holdsFile hfiles

theorem loadService_congr {p : Path} (h : t'.read p = t.read p) :
    Descriptor.loadService t' p = Descriptor.loadService t p := by
  have hfile : t'.isFile p = t.isFile p := by
    rw [Bool.eq_iff_iff, isFile_iff_read, isFile_iff_read, h]
  unfold Descriptor.loadService Descriptor.loadDocument
  rw [h, hfile]

/-- A service that was found is found again, with the same descriptor. -/
theorem serviceNames_mono (h : Within files dirs t t')
    (hfiles : (layoutOf d name).descriptor.place ∉ files) (hn : name ∈ serviceNames t d) :
    name ∈ serviceNames t' d ∧ Descriptor.loadService t' (layoutOf d name).descriptor =
      Descriptor.loadService t (layoutOf d name).descriptor := by
  obtain ⟨hname, hdir, hf⟩ := mem_serviceNames.mp hn
  obtain ⟨bytes, hr⟩ := isFile_iff_read.mp hf
  have hr' := h.read hfiles hr
  exact ⟨mem_serviceNames.mpr ⟨hname, h.isDirectory hdir, isFile_iff_read.mpr ⟨bytes, hr'⟩⟩,
    loadService_congr (hr'.trans hr.symm)⟩

/-- Where the directory of services was there before, directories that are made bring no service: none
of them can hold a descriptor already. -/
theorem mem_serviceNames_of_rooted (hrooted : t.Rooted) (hd : t.isDirectory d = true)
    (h : Within files dirs t t') (hfiles : (layoutOf d name).descriptor.place ∉ files)
    (hn : name ∈ serviceNames t' d) : name ∈ serviceNames t d := by
  obtain ⟨hname, -, hf⟩ := mem_serviceNames.mp hn
  have hholds : t.HoldsFile (layoutOf d name).descriptor.place :=
    (h.holdsFile hfiles).mp (isFile_iff.mp hf).2
  have hdir : t.isDirectory (d.child name) = true := by
    refine isDirectory_iff.mpr ⟨locate_child hd (isPart_of_isName hname), @hrooted _ ServiceLayout.descriptorName ?_⟩
    rw [← Path.place_child_name _ descriptorName_proper.1]
    obtain ⟨bytes, mode, hnode⟩ := hholds
    exact Option.isSome_iff_exists.mpr ⟨_, hnode⟩
  exact mem_serviceNames.mpr ⟨hname, hdir, (isFile_child hdir (by decide)).mpr hholds⟩

/-- The same services are listed the same way. -/
theorem serviceNames_eq (h : ∀ name, name ∈ serviceNames t' d ↔ name ∈ serviceNames t d) :
    serviceNames t' d = serviceNames t d :=
  eq_of_increasing (increasing_serviceNames t' d) (increasing_serviceNames t d) h

/-- Where no directory is made and no descriptor changes, the services are the same. -/
theorem serviceNames_within (h : Within files ∅ t t') (hfiles : ∀ l : ServiceLayout, l.descriptor.place ∉ files) :
    serviceNames t' d = serviceNames t d :=
  serviceNames_eq fun _ => mem_serviceNames_iff h (hfiles _)

theorem profilesIn_congr (hnames : serviceNames t' d = serviceNames t d)
    (hload : ∀ name ∈ serviceNames t d, Descriptor.loadService t' (layoutOf d name).descriptor =
      Descriptor.loadService t (layoutOf d name).descriptor) :
    profilesIn t' d deploySpace defaultSpace = profilesIn t d deploySpace defaultSpace := by
  rw [profilesIn, profilesIn, hnames]
  generalize serviceNames t d = names at hload
  induction names with
  | nil => rfl
  | cons name names ih =>
    obtain ⟨hname, hload⟩ := List.forall_mem_cons.mp hload
    rw [List.mapM_cons, List.mapM_cons, ih hload, profileIn, profileIn, hname]

theorem profilesIn_within (h : Within files ∅ t t') (hfiles : ∀ l : ServiceLayout, l.descriptor.place ∉ files) :
    profilesIn t' d deploySpace defaultSpace = profilesIn t d deploySpace defaultSpace :=
  profilesIn_congr (serviceNames_within h hfiles) fun _ hname => (serviceNames_mono h (hfiles _) hname).2

theorem isFile_of_loadAuthority {p : Path} {a : AuthorityDescriptor} (h : Descriptor.loadAuthority t p = .ok a) :
    t.isFile p = true := by
  by_contra hf
  simp [Descriptor.loadAuthority, Descriptor.loadDocument, hf, bind, Except.bind] at h

/-! ## The stage -/

/-- Discovery comes to `profilesIn`, and changes nothing but the log. -/
theorem exec_profiles (d : Path) (deploySpace defaultSpace : String) (w : World σ) :
    ∃ log, (profiles d deploySpace defaultSpace).exec w =
      ((profilesIn w.tree d deploySpace defaultSpace).mapError fun f => .fault (.descriptor f),
        { w with log := log }) := by
  unfold profiles
  rw [exec_bind, exec_tree]
  dsimp only
  cases hd : w.tree.isDirectory d with
  | false =>
    rw [profilesIn, serviceNames_of_not_isDirectory hd]
    exact ⟨_, rfl⟩
  | true =>
    obtain ⟨log, hamong⟩ := exec_profilesAmong d deploySpace defaultSpace (directories w.tree d) w
    simp only [Bool.not_true, Bool.false_eq_true, if_false]
    rw [exec_bind, hamong, profilesIn, serviceNames]
    generalize List.mapM (profileIn w.tree d deploySpace defaultSpace) _ = outcome
    cases outcome <;> exact ⟨_, rfl⟩

end Discovery

namespace Pipeline

variable {σ : Type} {s : Settings} {space : String}

/-- How a descriptor that gives no service ends a run. -/
def servicesFailure (s : Settings) (f : Descriptor.Fault) : Failure :=
  if f.isDescribed then .pipeline (.services s.tlsDirectory f) else .fault (.descriptor f)

theorem exec_discover (s : Settings) (space : String) (w : World σ) :
    ∃ log, (discover s space).exec w =
      ((Discovery.profilesIn w.tree s.tlsDirectory space s.defaultSpace).mapError (servicesFailure s),
        { w with log := log }) := by
  obtain ⟨log, h⟩ := Discovery.exec_profiles s.tlsDirectory space s.defaultSpace w
  refine ⟨log, ?_⟩
  unfold discover
  rw [exec_tryCatch, h]
  cases Discovery.profilesIn w.tree s.tlsDirectory space s.defaultSpace with
  | ok ps => rfl
  | error f =>
    dsimp only [Except.mapError]
    unfold servicesFailure
    split <;> rfl

theorem discover_still : Obeys .still (discover s space : Stage σ (List Profile)) := fun w => by
  obtain ⟨log, h⟩ := exec_discover s space w
  rw [h]
  exact ⟨rfl, rfl, rfl⟩

theorem discover_ok {w w' : World σ} {ps : List Profile} (h : (discover s space).exec w = (.ok ps, w')) :
    Discovery.profilesIn w.tree s.tlsDirectory space s.defaultSpace = .ok ps ∧ w'.tree = w.tree := by
  obtain ⟨log, he⟩ := exec_discover s space w
  rw [he, Prod.mk.injEq, mapError_eq_ok] at h
  exact ⟨h.1, h.2 ▸ rfl⟩

end Pipeline

end ServiceTrust
