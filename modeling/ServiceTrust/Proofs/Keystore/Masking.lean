/-
Passwords of key stores stay out of what is logged and told. How an argument is shown depends on nothing but
itself and the one before it: after a password option there are asterisks. So two commands that differ only in
arguments after such an option are shown the same, unless one of these is an option of that kind itself; and as
long as the tool answers the same, running either logs the same and ends the same.
-/
import ServiceTrust.Proofs.Specimen

namespace ServiceTrust.Keystore

open Stage

/-! ## Arguments -/

/-- The options that a password follows. -/
def passwordOptions : List String :=
  ["-storepass", "-srcstorepass", "-deststorepass", "-keypass", "-destkeypass"]

theorem maskedAfter_cons (first : Bool) (arg : String) (args : List String) :
    maskedAfter first (arg :: args) =
      (if first then "****" else arg) :: maskedAfter (passwordOptions.contains arg) args := rfl

/-- The argument at a place comes directly after a password option. Of the first one `first` tells. -/
def afterFlag (first : Bool) (args : List String) : Nat → Bool
  | 0 => first
  | i + 1 => args[i]?.any passwordOptions.contains

theorem afterFlag_cons_succ (first : Bool) (arg : String) (args : List String) (i : Nat) :
    afterFlag first (arg :: args) (i + 1) = afterFlag (passwordOptions.contains arg) args i := by
  cases i with
  | zero => rfl
  | succ i => rfl

theorem maskedAfter_eq_mapIdx (first : Bool) (args : List String) :
    maskedAfter first args = args.mapIdx fun i arg => if afterFlag first args i then "****" else arg := by
  induction args generalizing first with
  | nil => rfl
  | cons arg args ih =>
    rw [maskedAfter_cons, List.mapIdx_cons, ih]
    simp only [afterFlag_cons_succ]
    rfl

/-- The arguments are the same but for some that come after password options and are none themselves. -/
inductive SameButPasswords : List String → List String → Prop
  | nil : SameButPasswords [] []
  | cons {args args' : List String} (arg : String) (h : SameButPasswords args args') :
    SameButPasswords (arg :: args) (arg :: args')
  | password {flag p p' : String} {args args' : List String} (hflag : flag ∈ passwordOptions)
    (hp : p ∉ passwordOptions) (hp' : p' ∉ passwordOptions) (h : SameButPasswords args args') :
    SameButPasswords (flag :: p :: args) (flag :: p' :: args')

namespace SameButPasswords

variable {args args' : List String}

theorem refl (args : List String) : SameButPasswords args args := by
  induction args with
  | nil => exact .nil
  | cons arg args ih => exact .cons arg ih

theorem append (as : List String) (h : SameButPasswords args args') :
    SameButPasswords (as ++ args) (as ++ args') := by
  induction as with
  | nil => exact h
  | cons a as ih => exact .cons a ih

/-- They are shown the same. That the passwords are no options matters to what comes after them. -/
theorem maskedAfter_eq (h : SameButPasswords args args') (first : Bool) :
    maskedAfter first args = maskedAfter first args' := by
  induction h generalizing first with
  | nil => rfl
  | cons arg h ih => rw [maskedAfter_cons, maskedAfter_cons, ih]
  | @password flag p p' args args' hflag hp hp' h ih =>
    -- after the password the next argument is shown, as the password is no option
    have hshown {p : String} {args : List String} (hp : p ∉ passwordOptions) :
        maskedAfter first (flag :: p :: args) =
          (if first then "****" else flag) :: "****" :: maskedAfter false args := by
      rw [maskedAfter_cons, maskedAfter_cons, List.contains_iff_mem.mpr hflag, if_pos rfl,
        Bool.eq_false_iff.mpr fun hc => hp (List.contains_iff_mem.mp hc)]
    rw [hshown hp, hshown hp', ih]

end SameButPasswords

/-! ## Commands -/

/-- The same command with other passwords, none of which is a password option. -/
inductive Command.Repassworded : Command → Command → Prop
  | importCert {p p' : String} (store : Path) (alias_ : String) (cert : Path) (type : String)
    (hp : p ∉ passwordOptions) (hp' : p' ∉ passwordOptions) :
    Repassworded (.importCert store alias_ cert p type) (.importCert store alias_ cert p' type)
  | importKeystore {p p' q q' : String} (source dest : Path) (alias_ sourceType destType : String)
    (hp : p ∉ passwordOptions) (hp' : p' ∉ passwordOptions) (hq : q ∉ passwordOptions) (hq' : q' ∉ passwordOptions) :
    Repassworded (.importKeystore source p dest q alias_ sourceType destType)
      (.importKeystore source p' dest q' alias_ sourceType destType)
  | listEntries {p p' : String} (store : Path) (type : String) (hp : p ∉ passwordOptions)
    (hp' : p' ∉ passwordOptions) : Repassworded (.listEntries store p type) (.listEntries store p' type)

variable {σ τ : Type} {c c' : Command}

namespace Command.Repassworded

theorem arguments (h : c.Repassworded c') : SameButPasswords c.arguments c'.arguments := by
  cases h with
  | importCert store alias_ cert type hp hp' =>
    exact .append ["-importcert", "-noprompt", "-alias", alias_, "-file", toString cert, "-keystore",
      toString store, "-storetype", type] (.password (by decide) hp hp' .nil)
  | importKeystore source dest alias_ sourceType destType hp hp' hq hq' =>
    refine .append ["-importkeystore", "-noprompt", "-srckeystore", toString source, "-srcstoretype", sourceType]
      (.password (by decide) hp hp' ?_)
    refine .append ["-srcalias", alias_, "-destkeystore", toString dest, "-deststoretype", destType]
      (.password (by decide) hq hq' (.password (by decide) hq hq' ?_))
    exact .refl ["-destalias", alias_]
  | listEntries store type hp hp' =>
    exact .append ["-list", "-v", "-keystore", toString store, "-storetype", type]
      (.password (by decide) hp hp' .nil)

theorem told (h : c.Repassworded c') : c.operation = c'.operation ∧ c.store = c'.store := by
  cases h <;> exact ⟨rfl, rfl⟩

theorem masked_argv (h : c.Repassworded c') (executable : String) :
    masked (c.argv executable) = masked (c'.argv executable) := by
  have hargv : SameButPasswords (c.argv executable) (c'.argv executable) :=
    .append (executable :: localeArguments) h.arguments
  rw [masked, masked, hargv.maskedAfter_eq]

end Command.Repassworded

/-! ## Runs of the tool -/

/-- What a reply comes to depends on the log alone, and on nothing that is not told of the command. -/
theorem settle_congr {executable : String} (hmasked : masked (c.argv executable) = masked (c'.argv executable))
    (htold : c.operation = c'.operation ∧ c.store = c'.store) (reply : ToolReply) {w : World σ} {w' : World τ}
    (hlog : w.log = w'.log) :
    ((settle executable c reply).exec w).1 = ((settle executable c' reply).exec w').1 ∧
      ((settle executable c reply).exec w).2.log = ((settle executable c' reply).exec w').2.log := by
  obtain ⟨hoperation, hstore⟩ := htold
  cases reply with
  | notStarted reason =>
    unfold settle
    rw [hoperation]
    exact ⟨rfl, hlog⟩
  | finished status output errors =>
    unfold settle
    rw [hoperation, hstore, hmasked]
    dsimp only
    split
    · exact ⟨rfl, hlog⟩
    · exact ⟨rfl, congrArg (Log.add · _) hlog⟩

/-- Two runs of the tool that it replies the same to log the same and end the same. -/
theorem run_congr (h : c.Repassworded c') (executable : String) {host host' : Host} {w : World σ} {w' : World τ}
    (hlog : w.log = w'.log)
    (hreply : (host.tool (w.toolRuns.length + 1) (c.argv executable) w.tree).1 =
      (host'.tool (w'.toolRuns.length + 1) (c'.argv executable) w'.tree).1) :
    ((run host executable c).exec w).1 = ((run host' executable c').exec w').1 ∧
      ((run host executable c).exec w).2.log = ((run host' executable c').exec w').2.log := by
  have hmasked := h.masked_argv executable
  rw [exec_run, exec_run, hreply]
  exact settle_congr hmasked h.told _ (by rw [hlog, hmasked])

theorem exec_listEntries (host : Host) (executable : String) (store : Path) (password type : String)
    (w : World σ) :
    (listEntries host executable store password type).exec w =
      (((run host executable (.listEntries store password type)).exec w).1.map Listing.parse,
        ((run host executable (.listEntries store password type)).exec w).2) := by
  unfold listEntries
  rw [exec_bind]
  obtain ⟨outcome, w'⟩ := (run host executable (.listEntries store password type)).exec w
  cases outcome <;> rfl

/-- Of the arguments of a command all are shown but those that come directly after a password option. So whatever
the aliases, the files and the types of stores are called, and whatever tool is run, the passwords of a command
have no part in what is logged of a run or in how it ends, as long as the tool replies the same and no password
is a password option. -/
theorem passwords_kept_out_of_log_and_failures :
    (∀ argv : List String, masked argv =
      " ".intercalate (argv.mapIdx fun i arg => if afterFlag false argv i then "****" else arg)) ∧
    (∀ {c c' : Command}, c.Repassworded c' → ∀ executable : String,
      masked (c.argv executable) = masked (c'.argv executable) ∧
      ∀ (host host' : Host) (w : World σ) (w' : World τ), w.log = w'.log →
        (host.tool (w.toolRuns.length + 1) (c.argv executable) w.tree).1 =
          (host'.tool (w'.toolRuns.length + 1) (c'.argv executable) w'.tree).1 →
        ((run host executable c).exec w).1 = ((run host' executable c').exec w').1 ∧
          ((run host executable c).exec w).2.log = ((run host' executable c').exec w').2.log) ∧
    ∀ (executable : String) (store : Path) {p p' : String} (type : String),
      p ∉ passwordOptions → p' ∉ passwordOptions →
      ∀ (host host' : Host) (w : World σ) (w' : World τ), w.log = w'.log →
        (host.tool (w.toolRuns.length + 1) (Command.argv (.listEntries store p type) executable) w.tree).1 =
          (host'.tool (w'.toolRuns.length + 1) (Command.argv (.listEntries store p' type) executable)
            w'.tree).1 →
        ((listEntries host executable store p type).exec w).1 =
            ((listEntries host' executable store p' type).exec w').1 ∧
          ((listEntries host executable store p type).exec w).2.log =
            ((listEntries host' executable store p' type).exec w').2.log := by
  refine ⟨fun argv => by rw [masked, maskedAfter_eq_mapIdx], fun h executable => ?_,
    fun executable store p p' type hp hp' host host' w w' hlog hreply => ?_⟩
  · exact ⟨h.masked_argv executable, fun _ _ _ _ hlog hreply => run_congr h executable hlog hreply⟩
  · obtain ⟨houtcome, hlog⟩ := run_congr (.listEntries store type hp hp') executable hlog hreply
    rw [exec_listEntries, exec_listEntries, houtcome]
    exact ⟨rfl, hlog⟩

/-- A store that is named like a password option. -/
def optionStore : Path := ⟨.relative, ["-storepass"]⟩

/-- The name of the store makes an option look like a password, and hides the password no less. -/
theorem store_named_like_option_keeps_password :
    ∃ e : PipelineError,
      ((run Specimen.host "keytool" (.listEntries optionStore "first" "PKCS12")).exec Specimen.world).1 =
        .error (.pipeline e) ∧
      ((run Specimen.host "keytool" (.listEntries optionStore "second" "PKCS12")).exec Specimen.world).1 =
        .error (.pipeline e) ∧
      e.operation = "list -storepass: keytool -J-Duser.language=en -J-Duser.country=US -list -v -keystore " ++
        "-storepass **** PKCS12 -storepass ****" := by
  have h : Command.Repassworded (.listEntries optionStore "first" "PKCS12")
      (.listEntries optionStore "second" "PKCS12") := .listEntries _ _ (by decide) (by decide)
  obtain ⟨-, hall, -⟩ := passwords_kept_out_of_log_and_failures (σ := DryStore) (τ := DryStore)
  obtain ⟨-, hsame⟩ := hall h "keytool"
  obtain ⟨houtcome, -⟩ := hsame Specimen.host Specimen.host Specimen.world Specimen.world rfl (by decide +kernel)
  have hfirst : ((run Specimen.host "keytool" (.listEntries optionStore "first" "PKCS12")).exec Specimen.world).1 =
      .error (.pipeline (.toolFailed 1 "keytool error: java.lang.Exception: Keystore file does not exist: -storepass"
        "list -storepass" (masked (Command.argv (.listEntries optionStore "first" "PKCS12") "keytool"))
        (some optionStore))) := by decide +kernel
  exact ⟨_, hfirst, houtcome ▸ hfirst, by decide +kernel⟩

end ServiceTrust.Keystore
