/-
Sequences of set-ups of the log. A set-up succeeds exactly if it is given the name of a level, and one that is
refused leaves handlers and threshold as they were, but in one case: on a bare log the name of a switch passes
where the first handler is made, and is refused where the threshold is set, with that handler attached. Later
set-ups find a handler and attach none, so the error stream never comes: a sequence of set-ups is all or
nothing exactly if no switch is named before the first level.
-/
import ServiceTrust.Log
import ServiceTrust.Proofs.Lookup
import Mathlib.Data.List.Induction

namespace ServiceTrust.Log

/-- What the log can write to. -/
inductive Handler where
  | own
  | errorStream
  deriving DecidableEq, Repr

/-- The handlers of the log, which are attached in this order. -/
def attached (l : Log) : List Handler := [Handler.own, .errorStream].take l.handlers

/-- The number of a level by its name. -/
def numberOf? : String → Option Nat
  | "CRITICAL" | "FATAL" => some 50
  | "ERROR" => some 40
  | "WARNING" | "WARN" => some 30
  | "INFO" => some 20
  | "DEBUG" => some 10
  | "NOTSET" => some 0
  | _ => none

/-- The text is the name of a level. -/
def isLevel (level : String) : Bool := (numberOf? level).isSome

/-- The names of switches of the log. -/
def switches : List String := ["logMultiprocessing", "logProcesses", "logThreads", "raiseExceptions"]

/-- A handler is made for the text, although it need not be the name of a level. -/
def opens (level : String) : Bool := isLevel level || switches.contains level

variable {l : Log} {level : String} {levels before : List String}

theorem attached_eq_nil : l.attached = [] ↔ l.handlers = 0 := by
  simp [attached, List.take_eq_nil_iff]

/-! ## One set-up -/

theorem lookup_levelNumbers (level : String) : levelNumbers.lookup level = numberOf? level := by
  unfold numberOf?
  split
  case h_9 => simp_all [levelNumbers, Lookup.lookup_cons]
  all_goals rfl

theorem levelSwitches_eq : levelSwitches = switches := rfl

theorem switches_proper : ∀ switch ∈ switches, isLevel switch = false ∧
    switch ∉ levelOthers ∧ levelTexts.lookup switch = none := by decide

/-- The names of levels name nothing else of the log. -/
theorem levels_proper : ∀ e ∈ levelNumbers, e.1 ∉ levelOthers ∧ levelTexts.lookup e.1 = none := by decide

/-- The name of a level is taken, and the missing handlers come with it. -/
theorem setUp_of_level {n : Nat} (h : numberOf? level = some n) :
    l.setUp level =
      ({ l with handlers := if l.handlers = 0 then 2 else l.handlers, threshold := n }, .ok ()) := by
  rw [← lookup_levelNumbers] at h
  obtain ⟨hother, htext⟩ := levels_proper _ (Lookup.mem_of_lookup h)
  unfold setUp setLevel
  by_cases hbare : l.handlers = 0
  · simp [hbare, hother, htext, h]
  · simp [hbare, h]

/-- Any other text is refused, and only on a bare log the name of a switch leaves something behind. -/
theorem setUp_of_not_level (h : isLevel level = false) :
    (∃ fault, (l.setUp level).2 = .error fault) ∧ (l.setUp level).1 =
      if l.handlers = 0 ∧ level ∈ switches then { l with handlers := 1 } else l := by
  have hnone : levelNumbers.lookup level = none := by simpa [isLevel, lookup_levelNumbers] using h
  unfold setUp setLevel
  rw [levelSwitches_eq]
  by_cases hbare : l.handlers = 0
  · by_cases hswitch : level ∈ switches
    · obtain ⟨-, hother, htext⟩ := switches_proper level hswitch
      simp [hbare, hswitch, hother, htext, hnone]
    · by_cases hother : level ∈ levelOthers
      · simp [hbare, hswitch, hother]
      · cases htext : levelTexts.lookup level <;> simp [hbare, hswitch, hother, hnone]
  · simp [hbare, hnone]

theorem setUp_ok_iff : (l.setUp level).2 = .ok () ↔ isLevel level = true := by
  cases hlevel : isLevel level with
  | true =>
    obtain ⟨n, hn⟩ := Option.isSome_iff_exists.mp hlevel
    simp [setUp_of_level hn]
  | false =>
    obtain ⟨⟨fault, hfault⟩, -⟩ := setUp_of_not_level (l := l) hlevel
    simp [hfault]

/-! ## Sequences of set-ups -/

/-- The log after set-ups with the levels, one after another. -/
def setUps (l : Log) (levels : List String) : Log := levels.foldl (fun l level => (l.setUp level).1) l

/-- The levels of those set-ups that succeed. -/
def taken (l : Log) : List String → List String
  | [] => []
  | level :: levels =>
    match l.setUp level with
    | (l', .ok ()) => level :: taken l' levels
    | (l', .error _) => taken l' levels

theorem setUps_concat (l : Log) (levels : List String) (level : String) :
    l.setUps (levels ++ [level]) = ((l.setUps levels).setUp level).1 := by
  simp [setUps, List.foldl_append]

theorem taken_eq (l : Log) (levels : List String) : l.taken levels = levels.filter isLevel := by
  induction levels generalizing l with
  | nil => rfl
  | cons level levels ih =>
    rw [taken, List.filter_cons]
    cases hlevel : isLevel level with
    | true =>
      obtain ⟨n, hn⟩ := Option.isSome_iff_exists.mp hlevel
      rw [setUp_of_level hn, if_pos rfl]
      exact congrArg (level :: ·) (ih _)
    | false =>
      obtain ⟨⟨fault, hfault⟩, -⟩ := setUp_of_not_level (l := l) hlevel
      rw [show l.setUp level = ((l.setUp level).1, .error fault) from Prod.ext rfl hfault]
      exact ih _

/-- How many handlers there are is decided by the first text for which one is made. -/
theorem handlers_setUps (hbare : l.handlers = 0) (levels : List String) :
    (l.setUps levels).handlers =
      match levels.find? opens with
      | none => 0
      | some level => if isLevel level then 2 else 1 := by
  induction levels using List.reverseRecOn with
  | nil => exact hbare
  | append_singleton levels level ih =>
    rw [setUps_concat, List.find?_append]
    cases hfirst : levels.find? opens with
    | some first =>
      -- once there is a handler, none is added
      have hsome : (l.setUps levels).handlers ≠ 0 := by
        rw [ih, hfirst]
        dsimp only
        split <;> decide
      rw [Option.some_or, ← hfirst, ← ih]
      cases hlevel : isLevel level with
      | true =>
        obtain ⟨n, hn⟩ := Option.isSome_iff_exists.mp hlevel
        rw [setUp_of_level hn]
        exact if_neg hsome
      | false => rw [(setUp_of_not_level hlevel).2, if_neg fun h => hsome h.1]
    | none =>
      have hnone : (l.setUps levels).handlers = 0 := by rw [ih, hfirst]
      rw [Option.none_or, List.find?_singleton]
      cases hlevel : isLevel level with
      | true =>
        obtain ⟨n, hn⟩ := Option.isSome_iff_exists.mp hlevel
        simp [setUp_of_level hn, hnone, opens, hlevel]
      | false =>
        rw [(setUp_of_not_level hlevel).2]
        by_cases hswitch : level ∈ switches <;> simp [hnone, opens, hlevel, hswitch]

/-- The threshold is that of the last level that was named. -/
theorem threshold_setUps (l : Log) (levels : List String) : (l.setUps levels).threshold =
    ((levels.filter isLevel).getLast?.bind numberOf?).getD l.threshold := by
  induction levels using List.reverseRecOn with
  | nil => rfl
  | append_singleton levels level ih =>
    rw [setUps_concat, List.filter_append]
    cases hlevel : isLevel level with
    | true =>
      obtain ⟨n, hn⟩ := Option.isSome_iff_exists.mp hlevel
      simp [setUp_of_level hn, hlevel, hn]
    | false =>
      rw [(setUp_of_not_level hlevel).2, List.filter_singleton, hlevel, cond_false, List.append_nil, ← ih]
      split <;> rfl

/-! ## All or nothing -/

/-- A log is set up as a whole or not at all, at each point of a sequence of set-ups. -/
structure AllOrNothing (l : Log) (levels : List String) : Prop where
  refused : ∀ {before level fault}, before ++ [level] <+: levels →
    ((l.setUps before).setUp level).2 = .error fault →
      ((l.setUps before).setUp level).1.attached = (l.setUps before).attached ∧
        ((l.setUps before).setUp level).1.threshold = (l.setUps before).threshold
  bare : ∀ {before}, before <+: levels → l.taken before = [] → (l.setUps before).attached = []
  whole : ∀ {before}, before <+: levels → l.taken before ≠ [] →
    (l.setUps before).attached = [.own, .errorStream]
  threshold : ∀ {before level}, before <+: levels → (l.taken before).getLast? = some level →
    numberOf? level = some (l.setUps before).threshold

/-- The first text for which a handler is made is the name of a switch. -/
def SwitchFirst (levels : List String) : Prop := ∃ switch ∈ switches, levels.find? opens = some switch

theorem attached_setUps (hbare : l.attached = []) (levels : List String) :
    (l.setUps levels).attached =
      match levels.find? opens with
      | none => []
      | some level => if isLevel level then [.own, .errorStream] else [.own] := by
  rw [attached, handlers_setUps (attached_eq_nil.mp hbare)]
  cases levels.find? opens with
  | none => rfl
  | some level => cases hlevel : isLevel level <;> simp [hlevel]

theorem attached_of_switchFirst (hbare : l.attached = []) (h : SwitchFirst levels) :
    (l.setUps levels).attached = [.own] := by
  obtain ⟨switch, hswitch, hfirst⟩ := h
  rw [attached_setUps hbare, hfirst]
  simp [(switches_proper switch hswitch).1]

/-- Where no switch comes first, a handler is made for a level if for any text. -/
theorem isLevel_of_find? (h : ¬ SwitchFirst levels) (hfirst : levels.find? opens = some level) :
    isLevel level = true ∧ level ∈ levels := by
  refine ⟨?_, List.mem_of_find?_eq_some hfirst⟩
  have hopens : opens level = true := List.find?_some hfirst
  rw [opens, Bool.or_eq_true, List.contains_iff_mem] at hopens
  exact hopens.resolve_right fun hswitch => h ⟨level, hswitch, hfirst⟩

theorem SwitchFirst.of_prefix (h : SwitchFirst before) (hpre : before <+: levels) : SwitchFirst levels := by
  obtain ⟨switch, hswitch, hfirst⟩ := h
  obtain ⟨after, rfl⟩ := hpre
  exact ⟨switch, hswitch, by rw [List.find?_append, hfirst, Option.some_or]⟩

theorem allOrNothing_of_not_switchFirst (hbare : l.attached = []) (h : ¬ SwitchFirst levels) :
    AllOrNothing l levels where
  refused {before level fault} hpre hfault := by
    have hlevel : isLevel level = false := by
      rw [← Bool.not_eq_true, ← setUp_ok_iff (l := l.setUps before), hfault]
      nofun
    have hkept : ¬ ((l.setUps before).handlers = 0 ∧ level ∈ switches) := by
      rintro ⟨hnone, hswitch⟩
      refine h (SwitchFirst.of_prefix ⟨level, hswitch, ?_⟩ hpre)
      -- with no handler yet, the switch is the first text that opens
      rw [← attached_eq_nil, attached_setUps hbare] at hnone
      cases hfirst : before.find? opens with
      | none => simp [List.find?_append, hfirst, opens, hswitch]
      | some first =>
        rw [hfirst] at hnone
        dsimp only at hnone
        split at hnone <;> cases hnone
    rw [(setUp_of_not_level hlevel).2, if_neg hkept]
    exact ⟨rfl, rfl⟩
  bare {before} hpre hnone := by
    rw [attached_setUps hbare]
    cases hfirst : before.find? opens with
    | none => rfl
    | some first =>
      obtain ⟨hlevel, hmem⟩ := isLevel_of_find? (fun hswitch => h (hswitch.of_prefix hpre)) hfirst
      rw [taken_eq, List.filter_eq_nil_iff] at hnone
      exact absurd hlevel (hnone first hmem)
  whole {before} hpre hsome := by
    rw [attached_setUps hbare]
    cases hfirst : before.find? opens with
    | none =>
      refine absurd ?_ hsome
      rw [taken_eq, List.filter_eq_nil_iff]
      intro level hmem hlevel
      exact List.find?_eq_none.mp hfirst level hmem (by simp [opens, hlevel])
    | some first =>
      obtain ⟨hlevel, -⟩ := isLevel_of_find? (fun hswitch => h (hswitch.of_prefix hpre)) hfirst
      simp [hlevel]
  threshold {before level} _ hlast := by
    rw [taken_eq] at hlast
    have hlevel := (List.mem_filter.mp (List.mem_of_getLast? hlast)).2
    obtain ⟨n, hn⟩ := Option.isSome_iff_exists.mp hlevel
    rw [threshold_setUps, hlast, Option.bind_some, hn, Option.getD_some]

/-- A log that is set up time and again, whatever levels it is given, comes to have both of its handlers with
the first set-up that succeeds and not before, keeps them, and follows the last level: exactly if no switch
was named before the first level. Where one was, the log has its own handler alone for ever. In any case a
set-up succeeds exactly if it is given the name of a level, and the threshold is that of the last one. -/
theorem set_ups_all_or_nothing_iff (hbare : l.attached = []) (levels : List String) :
    (AllOrNothing l levels ↔ ¬ SwitchFirst levels) ∧
    (SwitchFirst levels → (l.setUps levels).attached = [.own]) ∧
    l.taken levels = levels.filter isLevel ∧
    (l.setUps levels).threshold =
      ((levels.filter isLevel).getLast?.bind numberOf?).getD l.threshold := by
  refine ⟨⟨fun hlaw hswitch => ?_, allOrNothing_of_not_switchFirst hbare⟩, attached_of_switchFirst hbare,
    taken_eq l levels, threshold_setUps l levels⟩
  have hown := attached_of_switchFirst hbare hswitch
  by_cases hnone : l.taken levels = []
  · rw [hlaw.bare List.prefix_rfl hnone] at hown
    cases hown
  · rw [hlaw.whole List.prefix_rfl hnone] at hown
    cases hown

/-- The name of a switch is refused, and leaves a log that later set-ups never complete; without it they do. -/
theorem switch_leaves_half_a_log :
    ({} : Log).attached = [] ∧
    (({} : Log).setUp "raiseExceptions").2 = .error (.unknownLevel "raiseExceptions") ∧
    ¬ AllOrNothing {} ["raiseExceptions", "INFO"] ∧
    (({} : Log).setUps ["raiseExceptions", "INFO"]).attached = [.own] ∧
    AllOrNothing {} ["loud", "INFO", "raiseExceptions"] := by
  have hbare : ({} : Log).attached = [] := rfl
  have hswitch : SwitchFirst ["raiseExceptions", "INFO"] := ⟨"raiseExceptions", by decide, by decide⟩
  have hlevel : ¬ SwitchFirst ["loud", "INFO", "raiseExceptions"] := by
    have hfirst : ["loud", "INFO", "raiseExceptions"].find? opens = some "INFO" := by decide
    rintro ⟨switch, hmem, heq⟩
    obtain rfl := Option.some.inj (hfirst.symm.trans heq)
    exact absurd hmem (by decide)
  obtain ⟨hiff, hown, -, -⟩ := set_ups_all_or_nothing_iff hbare ["raiseExceptions", "INFO"]
  exact ⟨hbare, by decide, fun hlaw => hiff.mp hlaw hswitch, hown hswitch,
    (set_ups_all_or_nothing_iff hbare _).1.mpr hlevel⟩

end ServiceTrust.Log
