/-
How a descriptor is loaded from whatever is at its path. Loading is a check of the document in the file, for
the authority as for a service, and whatever the check or the syntax of the document has to say is a fault
that names the file. Only a file of which there is no document to speak of ends it otherwise: one that is no
UTF-8, or a text on which the reader stops at a limit (`Unreadable`).
-/
import ServiceTrust.Descriptor.Load
import ServiceTrust.Proofs.Json.Limits
import ServiceTrust.Proofs.Text.Utf8

namespace ServiceTrust

/-- A text without carriage returns is read as it is. -/
theorem Text.plainNewlines_eq {cs : List Char} (h : '\r' ∉ cs) : plainNewlines cs = cs := by
  induction cs with
  | nil => rfl
  | cons c cs ih =>
    obtain ⟨hc, hcs⟩ := List.ne_and_not_mem_of_not_mem_cons h
    unfold plainNewlines
    split
    next he => cases he
    next he =>
      cases he
      exact absurd rfl hc
    next he =>
      cases he
      rw [if_neg hc.symm, ih hcs]

namespace Descriptor

variable {α : Type} {t : Tree} {path : Path} {f : Fault}

/-! ## Faults -/

/-- The file that a fault names. -/
def Fault.path? : Fault → Option Path
  | absent path | notJson path _ | invalid _ path _ => some path
  | encoding _ | limit _ => none

/-- The message has the path in it. -/
def Mentions (message : String) (path : Path) : Prop := ∃ before after, message = before ++ toString path ++ after

theorem Fault.isDescribed_eq (f : Fault) : f.isDescribed = f.path?.isSome := by
  cases f <;> rfl

/-- A fault that names the file does so in its message. -/
theorem Fault.mentions (h : f.path? = some path) : Mentions f.message path := by
  cases f with
  | absent p =>
    cases h
    exact ⟨"descriptor not found: ", "", String.append_empty.symm⟩
  | notJson p fault =>
    cases h
    refine ⟨"invalid JSON in ", toString ": " ++ toString fault.message, ?_⟩
    rw [← String.append_assoc]
    rfl
  | invalid isAuthority p fault =>
    cases h
    refine ⟨toString "invalid " ++ toString (if isAuthority then "CA" else "service") ++ toString " descriptor ",
      toString ": " ++ toString fault.message, ?_⟩
    rw [← String.append_assoc]
    rfl
  | encoding fault => cases h
  | limit fault => cases h

/-! ## Files -/

/-- The file holds the text `cs`, once its line ends are newlines. -/
def HasText (t : Tree) (path : Path) (cs : List Char) : Prop :=
  t.isFile path = true ∧ ∃ s, t.read path = .ok (Text.encode s) ∧ cs = Text.plainNewlines s.toList

/-- The file is there, and it is the octets that are no text, or the reader of its text that stops at a
limit which the text exceeds. -/
inductive Unreadable (t : Tree) (path : Path) : Fault → Prop
  | octets {bytes : Bytes} {fault : Text.Utf8Fault} (hfile : t.isFile path = true)
      (hread : t.read path = .ok bytes) (hnot : ∀ s, Text.encode s ≠ bytes)
      (hfault : Text.decode bytes = .error fault) : Unreadable t path (.encoding fault)
  | limit {cs : List Char} {fault : Json.Fault} (htext : HasText t path cs)
      (hread : Json.read (.ofList cs) = .error fault) (hexceeds : Json.Exceeds cs fault) :
      Unreadable t path (.limit fault)

theorem Unreadable.path?_eq (h : Unreadable t path f) : f.path? = none := by
  cases h <;> rfl

/-- Octets that are no text cannot be decoded. -/
theorem exists_unreadable_of_octets {bytes : Bytes} (hfile : t.isFile path = true) (hread : t.read path = .ok bytes)
    (hnot : ∀ s, Text.encode s ≠ bytes) : ∃ fault, Unreadable t path (.encoding fault) := by
  cases hdecode : Text.decode bytes with
  | ok s => exact absurd (Text.decode_eq_ok.mp hdecode) (hnot s)
  | error fault => exact ⟨_, .octets hfile hread hnot hdecode⟩

theorem unreadable_of_deep {rest : List Char} {n : Nat} (hdeep : Json.Reader.maxDepth < n)
    (h : HasText t path (List.replicate n '[' ++ rest)) : Unreadable t path (.limit (.tooDeep true)) := by
  have hread := Json.read_deep rest hdeep
  have hexceeds := Json.exceeds_of_read hread (by simp)
  rw [String.toList_ofList] at hexceeds
  exact .limit h hread hexceeds

theorem unreadable_of_digits {run : List Char} (hdigits : run.all Char.isDigit = true)
    (hhead : run.head? ≠ some '0') (hlong : Text.maxDigits < run.length) (h : HasText t path run) :
    Unreadable t path (.limit (.tooManyDigits run.length)) := by
  have hread := Json.read_digits hdigits hhead hlong
  have hexceeds := Json.exceeds_of_read hread (by simp)
  rw [String.toList_ofList] at hexceeds
  exact .limit h hread hexceeds

/-! ## Documents -/

theorem loadDocument_error (h : loadDocument t path = .error f) : f.path? = some path ∨ Unreadable t path f := by
  unfold loadDocument at h
  split at h
  next bytes hfile hread =>
    split at h
    next fault hdecode =>
      -- octets that can be decoded are those of the text they give, so these are of none
      cases h
      refine .inr (.octets hfile hread (fun s hs => ?_) hdecode)
      rw [Text.decode_eq_ok.mpr hs] at hdecode
      cases hdecode
    next s hdecode =>
      have htext : HasText t path (Text.plainNewlines s.toList) :=
        ⟨hfile, s, by rw [hread, Text.decode_eq_ok.mp hdecode], rfl⟩
      split at h
      next => cases h
      next fault _ =>
        cases h
        exact .inl rfl
      next fault hnot hreads =>
        cases h
        have hexceeds := Json.exceeds_of_read hreads (fun g hg => hnot g hg)
        rw [String.toList_ofList] at hexceeds
        exact .inr (.limit htext hreads hexceeds)
  next =>
    cases h
    exact .inl rfl

theorem Unreadable.loadDocument (h : Unreadable t path f) : Descriptor.loadDocument t path = .error f := by
  unfold Descriptor.loadDocument
  cases h with
  | octets hfile hread hnot hfault =>
    rw [hfile, hread]
    dsimp only
    rw [hfault]
  | @limit cs fault htext hread hexceeds =>
    obtain ⟨hfile, s, hbytes, rfl⟩ := htext
    rw [hfile, hbytes]
    dsimp only
    rw [Text.decode_eq_ok.mpr rfl]
    dsimp only
    rw [hread]
    cases fault with
    | grammar g => cases hexceeds
    | tooManyDigits n => rfl
    | tooDeep isArray => rfl

/-! ## Descriptors -/

/-- A descriptor of the one kind or of the other, by the check that makes it one. -/
def load (isAuthority : Bool) (check : Json → Except Schema.Fault α) (t : Tree) (path : Path) : Except Fault α := do
  let j ← loadDocument t path
  (check j).mapError (.invalid isAuthority path)

theorem load_error {isAuthority : Bool} {check : Json → Except Schema.Fault α}
    (h : load isAuthority check t path = .error f) : f.path? = some path ∨ Unreadable t path f := by
  unfold load at h
  cases hdocument : loadDocument t path with
  | error f' =>
    rw [hdocument] at h
    cases h
    exact loadDocument_error hdocument
  | ok j =>
    rw [hdocument] at h
    dsimp only [bind, Except.bind] at h
    cases hcheck : check j with
    | ok d => rw [hcheck] at h; cases h
    | error fault =>
      rw [hcheck] at h
      cases h
      exact .inl rfl

/-- A fault of loading is none that names the file, exactly if the file is unreadable. -/
theorem load_undescribed {isAuthority : Bool} {check : Json → Except Schema.Fault α} :
    load isAuthority check t path = .error f ∧ f.isDescribed = false ↔ Unreadable t path f := by
  constructor
  · rintro ⟨h, hf⟩
    refine (load_error h).resolve_left fun hpath => ?_
    rw [f.isDescribed_eq, hpath] at hf
    cases hf
  · intro h
    refine ⟨?_, by rw [f.isDescribed_eq, h.path?_eq]; rfl⟩
    rw [load, h.loadDocument]
    rfl

theorem loadAuthority_eq (t : Tree) (path : Path) :
    loadAuthority t path = load true (fun j => (checkAuthority j).toExcept "CADescriptor") t path := by
  unfold loadAuthority load
  cases loadDocument t path with
  | error f => rfl
  | ok j =>
    dsimp only [bind, Except.bind]
    cases (checkAuthority j).toExcept "CADescriptor" <;> rfl

theorem loadService_eq (t : Tree) (path : Path) :
    loadService t path = load false (fun j => (checkService j).toExcept "ServiceDescriptor") t path := by
  unfold loadService load
  cases loadDocument t path with
  | error f => rfl
  | ok j =>
    dsimp only [bind, Except.bind]
    cases (checkService j).toExcept "ServiceDescriptor" <;> rfl

/-- Of loading a descriptor from `path`, whatever is there: it gives one, or a fault that names the file, or the
file is unreadable. Then it gives the same fault that is no descriptor's for the authority and for a service.
Unreadable are all octets that are no text, all texts that begin with more lists than may be nested, and all
numbers that are written with too many digits. -/
structure Loading (t : Tree) (path : Path) : Prop where
  names : ∀ f, loadAuthority t path = .error f ∨ loadService t path = .error f →
    f.isDescribed = true ∧ Mentions f.message path ∨ Unreadable t path f
  unreadable : ∀ f, Unreadable t path f →
    loadAuthority t path = .error f ∧ loadService t path = .error f ∧ f.isDescribed = false
  octets : ∀ bytes, t.isFile path = true → t.read path = .ok bytes → (∀ s, Text.encode s ≠ bytes) →
    ∃ fault, Unreadable t path (.encoding fault)
  deep : ∀ n rest, Json.Reader.maxDepth < n → HasText t path (List.replicate n '[' ++ rest) →
    Unreadable t path (.limit (.tooDeep true))
  digits : ∀ run, run.all Char.isDigit = true → run.head? ≠ some '0' → Text.maxDigits < run.length →
    HasText t path run → Unreadable t path (.limit (.tooManyDigits run.length))

theorem loading (t : Tree) (path : Path) : Loading t path where
  names f h := by
    rw [loadAuthority_eq, loadService_eq] at h
    refine (h.elim load_error load_error).imp_left fun hpath => ⟨?_, f.mentions hpath⟩
    rw [f.isDescribed_eq, hpath]
    rfl
  unreadable f h := by
    rw [loadAuthority_eq, loadService_eq]
    exact ⟨(load_undescribed.mpr h).1, load_undescribed.mpr h⟩
  octets _ := exists_unreadable_of_octets
  deep _ _ := unreadable_of_deep
  digits _ := unreadable_of_digits

end Descriptor

end ServiceTrust
