/-
The keys that a hint names. Which key of a secret is the first with a certain ending depends neither on the
service nor on how its entries were bound: the order of the keys is that of the bindings (`find?_keys_setAll`),
and no name of a service gives a key an ending that is not that of its binding (`Key.hasSuffix_text`). So it
is found once for each convention and role. A key is shown with its dots escaped, and can be read back from that.
-/
import ServiceTrust.Proofs.Publish.Entries
import ServiceTrust.Publish.Hint
import Mathlib.Data.List.Find

namespace ServiceTrust

namespace Entries

variable {es more : Entries} {q : String → Bool}

/-- A key that is bound already keeps its place, and another one comes last; either way the first key that is
looked for is the same. -/
theorem find?_keys_set (key : String) (p : Path) :
    ((es.set key p).map (·.1)).find? q = (es.map (·.1) ++ [key]).find? q := by
  unfold set
  split
  next hany =>
    have hkeys : (es.map fun e => if e.1 = key then (key, p) else e).map (·.1) = es.map (·.1) := by
      rw [List.map_map]
      refine List.map_congr_left fun e _ => ?_
      by_cases he : e.1 = key <;> simp [he]
    have hmem : key ∈ es.map (·.1) := by
      obtain ⟨e, he, hk⟩ := List.any_eq_true.mp hany
      exact List.mem_map.mpr ⟨e, he, of_decide_eq_true hk⟩
    rw [hkeys, List.find?_append]
    cases hfind : (es.map (·.1)).find? q with
    | some k => rfl
    | none => simpa using List.find?_eq_none.mp hfind key hmem
  next => rw [List.map_append, List.map_cons, List.map_nil]

theorem find?_keys_setAll :
    ((es.setAll more).map (·.1)).find? q = (es.map (·.1) ++ more.map (·.1)).find? q := by
  induction more generalizing es with
  | nil => simp [setAll]
  | cons e more ih =>
    have hrest : es.setAll (e :: more) = (es.set e.1 e.2).setAll more := rfl
    rw [hrest, ih, List.find?_append, find?_keys_set, ← List.find?_append, List.map_cons, List.append_assoc,
      List.singleton_append]

end Entries

namespace Publish

/-! ## Keys with their endings -/

/-- What a key ends with for every service. -/
def Key.tail : Key → String
  | fixed text | ofService text => text

/-- Whether the key has the ending is not up to the service. -/
def Key.settles (suffix : String) : Key → Bool
  | fixed _ => true
  | ofService text => hasSuffix text suffix || !hasSuffix suffix text

theorem Key.hasSuffix_text {k : Key} {suffix : String} (h : k.settles suffix = true) (service : String) :
    hasSuffix (k.text service) suffix = hasSuffix k.tail suffix := by
  cases k with
  | fixed text => rfl
  | ofService text =>
    simp only [settles, Bool.or_eq_true, Bool.not_eq_true', ← Bool.not_eq_true, hasSuffix_iff] at h
    have htext : text.toList <:+ (service ++ text).toList := by
      rw [String.toList_append]
      exact List.suffix_append ..
    rw [Bool.eq_iff_iff, hasSuffix_iff, hasSuffix_iff]
    constructor
    · intro hsuffix
      exact h.elim id fun hnot => (List.suffix_or_suffix_of_suffix hsuffix htext).resolve_right hnot
    · exact fun hsuffix => hsuffix.trans htext

/-- The keys of a secret in the order of its entries, the service apart. A key that is bound twice comes
twice. -/
def keysIn (c : Convention) (r : Role) : List Key :=
  ((commonBindings r).map (·.1)).filter (· ∉ droppedKeys c) ++ (addedBindings c r).map (·.1)

/-- Dropping a key drops no other one. -/
theorem droppedKeys_apart (c : Convention) (r : Role) :
    ∀ d ∈ droppedKeys c, ∀ k ∈ (commonBindings r).map (·.1), k = d ∨ k.apart d = true := by
  cases c <;> cases r <;> decide

variable {p : Profile} {r : Role} {authority : AuthorityFiles}

theorem keys_entries (bs : Bindings) :
    (bs.entries p authority).map (·.1) = (bs.map (·.1)).map (Key.text p.name) := by
  simp [Bindings.entries]

theorem find?_keys_erased (q : String → Bool) (ds : List Key) (es : Entries) :
    ((ds.foldl (fun es d => Entries.erase es (d.text p.name)) es).map (·.1)).find? q =
      (es.map (·.1)).find? fun key => decide (∀ d ∈ ds, key ≠ d.text p.name) && q key := by
  induction ds generalizing es with
  | nil => simp
  | cons d ds ih =>
    have hkeys : (es.erase (d.text p.name)).map (·.1) = (es.map (·.1)).filter (· ≠ d.text p.name) := by
      rw [List.filter_map]
      rfl
    rw [List.foldl_cons, ih, hkeys, List.find?_filter]
    refine congrArg (List.find? · _) (funext fun key => ?_)
    simp [Bool.and_assoc]

/-- Of keys that are dropped or apart from those that are, the others are left. -/
theorem find?_texts_kept {ks ds : List Key} (h : ∀ d ∈ ds, ∀ k ∈ ks, k = d ∨ k.apart d = true) (service : String)
    (q : String → Bool) :
    ((ks.map (Key.text service)).find? fun key => decide (∀ d ∈ ds, key ≠ d.text service) && q key) =
      ((ks.filter (· ∉ ds)).map (Key.text service)).find? q := by
  have hkept (k : Key) (hk : k ∈ ks) : (∀ d ∈ ds, k.text service ≠ d.text service) ↔ k ∉ ds := by
    constructor
    · exact fun hne hd => hne k hd rfl
    · intro hd d hmem
      refine Key.text_ne ((h d hmem k hk).resolve_left ?_) service
      rintro rfl
      exact hd hmem
  rw [List.find?_map, List.find?_map, List.find?_filter]
  refine congrArg _ (List.find?_congr fun k hk => ?_)
  simp only [Function.comp_apply, hkept k hk, Bool.decide_and, Bool.decide_eq_true]

/-- The first key with one of the endings is the same for all services. -/
theorem firstKey_dataEntries {suffixes : List String}
    (h : ∀ k ∈ keysIn p.convention r, ∀ suffix ∈ suffixes, k.settles suffix = true) :
    firstKey ((dataEntries p r authority).map (·.1)) suffixes =
      ((keysIn p.convention r).find? fun k => suffixes.any (hasSuffix k.tail)).map (Key.text p.name) := by
  have hends (k : Key) (hk : k ∈ keysIn p.convention r) :
      suffixes.any (hasSuffix (k.text p.name)) = suffixes.any (hasSuffix k.tail) := by
    rw [Bool.eq_iff_iff, List.any_eq_true, List.any_eq_true]
    exact exists_congr fun suffix => and_congr_right fun hs => by rw [Key.hasSuffix_text (h k hk suffix hs)]
  have hkeys : firstKey ((dataEntries p r authority).map (·.1)) suffixes =
      ((keysIn p.convention r).map (Key.text p.name)).find? fun key => suffixes.any (hasSuffix key) := by
    unfold firstKey keysIn
    rw [dataEntries_eq, Entries.find?_keys_setAll, List.find?_append, find?_keys_erased, Entries.find?_keys_setAll,
      List.map_nil, List.nil_append, keys_entries, keys_entries, find?_texts_kept (droppedKeys_apart _ _),
      List.map_append, List.find?_append]
  rw [hkeys, List.find?_map]
  exact congrArg (Option.map _) (List.find?_congr hends)

/-! ## The keys that are named -/

/-- What a hint looks for. -/
def hintSuffixes : List (List String) := hintChecks.map (·.2.1)

theorem keysIn_settle (c : Convention) (r : Role) :
    ∀ k ∈ keysIn c r, ∀ suffixes ∈ hintSuffixes, ∀ suffix ∈ suffixes, k.settles suffix = true := by
  cases c <;> cases r <;> decide

theorem firstKeys (c : Convention) (r : Role) :
    hintSuffixes.map (fun suffixes => (keysIn c r).find? fun k => suffixes.any (hasSuffix k.tail)) =
      [some authorityKeyName, some (certKey c), some (keyKey c)] := by
  cases c <;> cases r <;> decide

theorem map_firstKey (p : Profile) (r : Role) (authority : AuthorityFiles) :
    hintSuffixes.map (firstKey ((dataEntries p r authority).map (·.1))) =
      [some (authorityKeyName.text p.name), some ((certKey p.convention).text p.name),
        some ((keyKey p.convention).text p.name)] := by
  have hmap := congrArg (List.map (Option.map (Key.text p.name))) (firstKeys p.convention r)
  rw [List.map_map] at hmap
  refine (List.map_congr_left fun suffixes hs => ?_).trans hmap
  exact firstKey_dataEntries fun k hk => keysIn_settle _ _ k hk suffixes hs

/-! ## Keys as they are shown -/

/-- A key as a path expression names it, read: a backslash before a dot is dropped. -/
def unescapeChars : List Char → List Char
  | [] => []
  | '\\' :: '.' :: cs => '.' :: unescapeChars cs
  | c :: cs => c :: unescapeChars cs

def unescapeKey (shown : String) : String := .ofList (unescapeChars shown.toList)

theorem unescapeChars_cons {c : Char} {cs : List Char} (h : c = '\\' → cs.head? ≠ some '.') :
    unescapeChars (c :: cs) = c :: unescapeChars cs := by
  rw [unescapeChars]
  intro rest hc hcs
  exact h hc (by rw [hcs]; rfl)

/-- An escaped key is read back. -/
theorem unescapeKey_escapeKey (key : String) : unescapeKey (escapeKey key) = key := by
  have hchars (cs : List Char) :
      unescapeChars (cs.flatMap fun c => if c = '.' then ['\\', '.'] else [c]) = cs := by
    induction cs with
    | nil => rfl
    | cons c cs ih =>
      rw [List.flatMap_cons]
      by_cases hc : c = '.'
      · rw [if_pos hc, hc, List.cons_append, List.singleton_append, unescapeChars, ih]
      · rw [if_neg hc, List.singleton_append, unescapeChars_cons, ih]
        -- what follows a backslash of the key itself is no dot, for a dot has its own backslash before it
        intro _
        cases cs with
        | nil => simp
        | cons d ds =>
          by_cases hd : d = '.' <;> simp [hd]
  unfold unescapeKey escapeKey
  rw [String.toList_ofList, hchars, String.ofList_toList]

/-- What stands in a line for a key: the key with its dots escaped, which the entries bind to the file. -/
structure Shows (es : Entries) (shown : String) (file : Path) : Prop where
  escaped : escapeKey (unescapeKey shown) = shown
  held : es.lookup (unescapeKey shown) = some file

theorem shows_escapeKey {es : Entries} {key : String} {file : Path} (h : es.lookup key = some file) :
    Shows es (escapeKey key) file := by
  have hread := unescapeKey_escapeKey key
  exact ⟨by rw [hread], by rw [hread, h]⟩

/-! ## The hint -/

def describeLine (name space : String) : String := s!"kubectl describe secret -n {space} {name}"

/-- The line for what `label` means, where `shown` stands for its key. -/
def shownLine (name space label shown command : String) : String :=
  s!"- check the {label} with: kubectl get secret -n {space} {name} -o jsonpath=" ++
    "'\x7b.data." ++ shown ++ "\x7d' | base64 -d | " ++ command

/-- The hint of every secret describes it and then shows one authority, one certificate and one key. The
authority is the published one, and certificate and key are those of one role: the published role, but the
server wherever a container reads them under keys of its own. -/
theorem hint_shows_trust (p : Profile) (r : Role) (authority : AuthorityFiles) (space : String) :
    ∃ ca cert key : String,
      remediationHint (secretName p.name r) space ((dataEntries p r authority).map (·.1)) =
        "\n".intercalate [describeLine (secretName p.name r) space,
          shownLine (secretName p.name r) space "ca" ca "openssl x509 -text",
          shownLine (secretName p.name r) space "crt" cert "openssl x509 -text",
          shownLine (secretName p.name r) space "key" key "openssl pkey -text -noout"] ∧
      Shows (dataEntries p r authority) ca authority.cert ∧
      Shows (dataEntries p r authority) cert (p.layout.path (certRole p.convention r) .cert) ∧
      Shows (dataEntries p r authority) key (p.layout.path (certRole p.convention r) .key) := by
  have hkeys := map_firstKey p r authority
  simp only [hintSuffixes, hintChecks, List.map_cons, List.map_nil, List.cons.injEq, and_true] at hkeys
  obtain ⟨hca, hcert, hkey⟩ := hkeys
  refine ⟨_, _, _, ?_, shows_escapeKey (lookup_dataEntries (binds_authority p.convention r)),
    shows_escapeKey (lookup_dataEntries (binds_cert p.convention r)),
    shows_escapeKey (lookup_dataEntries (binds_key p.convention r))⟩
  simp only [remediationHint, hintChecks, List.filterMap_cons, List.filterMap_nil, hca, hcert, hkey, Option.map_some]
  rfl

end Publish

end ServiceTrust
