/-
What a build may touch. However it ends, and whatever the key store tool does to its own stores, a file that
has changed is a generated file of the authority's directory or of a service's, or one of the token keys; and
an authority that is reused keeps its directory to itself unless that is also the directory of a service or
of the token keys.
-/
import ServiceTrust.Proofs.Pipeline.Build
import ServiceTrust.Proofs.Specimen

namespace ServiceTrust

open Stage ServiceTrust.Tree Keystore

namespace Pipeline

variable {σ : Type} {host : Host} {s : Settings} {force withTokenKeys : Bool} {t : Tree} {w w' : World σ}

/-! ## What may change -/

/-- The authority that is there is used again, if it can be. -/
def Reuses (s : Settings) (force : Bool) (t : Tree) : Prop :=
  force = false ∧ s.authorityLayout.isComplete t = true

/-- The places of the files that a build which begins with the files `t` may change. -/
inductive Touched (s : Settings) (force withTokenKeys : Bool) (t : Tree) : Location → Prop
  | authority {l : Location} (hnew : ¬ Reuses s force t)
    (hl : l ∈ stalePlaces s.authorityLayout.directory.place) : Touched s force withTokenKeys t l
  | service {l : Location} {name : String} (hname : name ∈ Discovery.serviceNames t s.tlsDirectory)
    (hl : l ∈ stalePlaces (s.tlsDirectory.child name).place) : Touched s force withTokenKeys t l
  | tokenKey {l : Location} (hkeys : withTokenKeys = true)
    (hl : l ∈ TokenKeys.places s.tokenDirectory.place) : Touched s force withTokenKeys t l

/-! ## The parts of a build -/

theorem ensure_touches {d d' : AuthorityDescriptor} {outcome : Except Failure Authority}
    (hd : Descriptor.loadAuthority t s.authorityDescriptorPath = .ok d) (hw : w.tree = t)
    (h : (Authority.ensure host s.authorityLayout.directory d' none force).exec w = (outcome, w')) :
    Within {l | Touched s force withTokenKeys t l} ∅ t w'.tree := by
  by_cases hreuse : Reuses s force t
  · -- what is complete is only read, also where it cannot be loaded
    obtain ⟨rfl, hcomplete⟩ := hreuse
    subst hw
    have hsame := Authority.ensure_of_complete (d := d') host s.authorityLayout.directory none hcomplete
    rw [h] at hsame
    exact .of_eq hsame
  · exact (ensure_provides hd hw h).1.mono (fun l hl => .authority hreuse hl) subset_rfl

theorem services_touch (authority : Authority) (force withTokenKeys : Bool) (hconf : Confined host.tool)
    {t' : Tree} (hnames : Discovery.serviceNames t' s.tlsDirectory = Discovery.serviceNames t s.tlsDirectory)
    {ps : List Profile}
    (hps : Discovery.profilesIn t' s.tlsDirectory s.deploySpace s.defaultSpace = .ok ps) (hw : w.tree = t') :
    Within {l | Touched s force withTokenKeys t l} ∅ t'
      ((ps.mapM (buildService host s authority)).exec w).2.tree := by
  -- the services are found in `t'`, and they are those of `t`
  refine (services_within authority hconf hps hw).mono ?_ subset_rfl
  rintro l ⟨name, hname, hl⟩
  exact .service (hnames ▸ hname) hl

/-! ## A whole build -/

/-- However a build ends, only what it may touch has changed, and no directories were made but those of the
token keys. -/
theorem build_within_touched (hconf : Confined host.tool) (force withTokenKeys : Bool) (w : World σ) :
    Within {l | Touched s force withTokenKeys w.tree l} s.tokenDirectory.above w.tree
      ((build host s force withTokenKeys).exec w).2.tree := by
  have hcourse := build_course host s force withTokenKeys w
  generalize ((build host s force withTokenKeys).exec w).2.tree = t' at hcourse
  cases hcourse with
  | refused => exact .refl _ _ _
  | withoutAuthority ht hd h => exact (ensure_touches hd ht h).mono subset_rfl (Set.empty_subset _)
  | withoutServices ht hd h => exact (ensure_touches hd ht h).mono subset_rfl (Set.empty_subset _)
  | @working _ _ _ _ a _ ht hd h hps hv =>
    have hwork := services_touch a force withTokenKeys hconf (ensure_provides hd ht h).2 hps hv
    exact ((ensure_touches hd ht h).trans hwork).mono subset_rfl (Set.empty_subset _)
  | @worked _ _ _ u' _ a _ _ ht hd h hps hv hmade hkeys =>
    have hwork := services_touch a force withTokenKeys hconf (ensure_provides hd ht h).2 hps hv
    rw [hmade] at hwork
    refine (((ensure_touches hd ht h).trans hwork).mono subset_rfl (Set.empty_subset _)).trans ?_
    exact ((TokenKeys.ensure_within s.tokenDirectory force) u').1.mono (fun l hl => .tokenKey hkeys hl) subset_rfl

/-- All places that a generated file can have. -/
def generatedPlaces : Set Location := {l | ∃ d, l ∈ stalePlaces d}

theorem descriptor_not_mem_generatedPlaces (l : ServiceLayout) : l.descriptor.place ∉ generatedPlaces :=
  fun ⟨d, h⟩ => l.place_descriptor_not_stale d h

/-- Where nothing has the name of a generated file there is no generated file. -/
theorem not_holdsFile_of_entries {t : Tree} (h : ∀ e ∈ t.entries, isStale (e.1.getLastD "") = false) :
    ∀ l ∈ generatedPlaces, ¬ t.HoldsFile l := by
  rintro l ⟨d, name, hname, hstale, rfl⟩ ⟨bytes, mode, hnode⟩
  simp only [node?, isAnchor_concat hname, Bool.false_eq_true, if_false] at hnode
  obtain ⟨e, he, hl⟩ := List.mem_map.mp (lookup_isSome.mp (Option.isSome_of_eq_some hnode))
  have hname' := h e he
  rw [hl, List.getLastD_concat] at hname'
  exact Bool.false_ne_true (hname'.symm.trans hstale)

/-- However a build ends, it has changed generated files alone. -/
theorem build_within (hconf : Confined host.tool) (force withTokenKeys : Bool) (w : World σ) :
    Within generatedPlaces Set.univ w.tree ((build host s force withTokenKeys).exec w).2.tree := by
  refine (build_within_touched hconf force withTokenKeys w).mono (fun l hl => ?_) (Set.subset_univ _)
  cases hl with
  | authority _ hl => exact ⟨_, hl⟩
  | service _ hl => exact ⟨_, hl⟩
  | tokenKey _ hl => exact ⟨_, TokenKeys.places_subset_stale _ hl⟩

/-- A file whose existence, bytes or mode differ after a build, however that ended, is one that the build may
touch. Where the authority is reused, no file in its directory differs, unless the directory is also that of
a service, or that of token keys that are wanted. -/
theorem build_touches_nothing_else (hconf : Confined host.tool)
    {outcome : Except Failure BuildResult} (h : (build host s force withTokenKeys).exec w = (outcome, w')) :
    (∀ l, w'.tree.heldAt l ≠ w.tree.heldAt l → Touched s force withTokenKeys w.tree l) ∧
    (Reuses s force w.tree → AuthorityApart s w.tree →
      (withTokenKeys = true → s.tokenDirectory.place ≠ s.authorityLayout.directory.place) →
      ∀ name, w'.tree.heldAt (s.authorityLayout.directory.place ++ [name]) =
        w.tree.heldAt (s.authorityLayout.directory.place ++ [name])) := by
  have hwithin : Within {l | Touched s force withTokenKeys w.tree l} s.tokenDirectory.above w.tree
      ((build host s force withTokenKeys).exec w).2.tree := build_within_touched hconf force withTokenKeys w
  rw [h] at hwithin
  refine ⟨fun l hl => of_not_not fun hm => hl (hwithin.heldAt hm), fun hreuse hservices htokens name => ?_⟩
  refine hwithin.heldAt ?_
  -- whatever may be touched in the directory of the authority is there for another reason
  rintro (⟨hnew, -⟩ | ⟨hname, _, -, -, he⟩ | ⟨hkeys, _, -, he⟩)
  · exact hnew hreuse
  · exact hservices _ hname (List.append_inj_left' he rfl).symm
  · exact htokens hkeys (List.append_inj_left' he rfl).symm

/-- The specimen's key store tool is gone when it is to be run. -/
def toollessHost : Host := { Specimen.host with tool := fun _ _ t => (.notStarted "no such program", t) }

set_option maxRecDepth 100000 in
/-- A build fails at the tool, and has changed no file of the authority that it reused. -/
theorem toolless_build_touches : ∃ e w', (build toollessHost {}).exec (Specimen.settled 9) = (.error e, w') ∧
    (∀ l, w'.tree.heldAt l ≠ (Specimen.settled 9).tree.heldAt l → Touched {} false true (Specimen.settled 9).tree l) ∧
    ∀ name, w'.tree.heldAt (({} : Settings).authorityLayout.directory.place ++ [name]) =
      (Specimen.settled 9).tree.heldAt (({} : Settings).authorityLayout.directory.place ++ [name]) := by
  have hfails : ((build toollessHost {}).exec (Specimen.settled 9)).1.isOk = false := by decide +kernel
  have hreuse : Reuses {} false (Specimen.settled 9).tree := ⟨rfl, by decide +kernel⟩
  have hapart : AuthorityApart {} (Specimen.settled 9).tree := by
    unfold AuthorityApart
    decide +kernel
  rcases h : (build toollessHost {}).exec (Specimen.settled 9) with ⟨e | result, w'⟩
  · obtain ⟨htouched, hkept⟩ := build_touches_nothing_else (fun _ _ _ _ t _ => .refl _ _ t) h
    exact ⟨e, w', rfl, htouched, hkept hreuse hapart fun _ => by decide⟩
  · rw [h] at hfails
    cases hfails

end Pipeline

end ServiceTrust
