import ServiceTrust.Stage

/-!
The services of a TLS directory: its direct subdirectories with a service descriptor.
-/
namespace ServiceTrust

open Stage

namespace Discovery

variable {σ : Type}

/-- The directories in `d`, by name. -/
def directories (t : Tree) (d : Path) : List String :=
  (t.sortedNames d).filter fun name => t.isDirectory (d.child name)

/-- The service in the directory `name` of `d`. -/
def profileOf (d : Path) (name deploySpace defaultSpace : String) (descriptor : Request.Subject) :
    Profile where
  name := name
  layout := ⟨d.child name⟩
  descriptor := descriptor
  convention := Routing.convention name
  space := some (Routing.space name deploySpace defaultSpace)

/-- The services among the directories `names` of `d`. -/
def profilesAmong (d : Path) (deploySpace defaultSpace : String) :
    List String → Stage σ (List Profile)
  | [] => return []
  | name :: names => do
    let l : ServiceLayout := ⟨d.child name⟩
    let t ← tree
    if t.isFile l.descriptor then
      match Descriptor.loadService t l.descriptor with
      | .ok descriptor =>
        let rest ← profilesAmong d deploySpace defaultSpace names
        return profileOf d name deploySpace defaultSpace descriptor :: rest
      | .error fault => throw (.fault (.descriptor fault))
    else
      log .debug "service_dir_skipped" [("directory", .text (toString l.directory))]
      profilesAmong d deploySpace defaultSpace names

/-- The services of the directory `d`, by name. -/
def profiles (d : Path) (deploySpace defaultSpace : String) : Stage σ (List Profile) := do
  let t ← tree
  if !t.isDirectory d then
    log .warning "tls_dir_missing" [("tls_dir", .text (toString d))]
    return []
  let found ← profilesAmong d deploySpace defaultSpace (directories t d)
  log .info "services_discovered" [("tls_dir", .text (toString d)),
    ("services", .texts (found.map (·.name)))]
  return found

end Discovery

end ServiceTrust
