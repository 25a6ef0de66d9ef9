/-
Which texts go beyond what the reader takes. It reads from the front and leaves a suffix of what it was
given, so where it stops at a limit the text has what exceeds it: a run of too many digits, or more opening
brackets than lists and objects may be nested. Texts that open too many lists, and numbers that are written
with too many digits, do make it stop.
-/
import ServiceTrust.Json.Reader
import Mathlib.Data.List.Infix
import Mathlib.Data.List.TakeWhile

namespace ServiceTrust.Json

/-- A list or an object begins. -/
def opens (c : Char) : Bool := c = '[' || c = '{'

/-- The text has what the fault is about: an uninterrupted run of that many digits, more than there may be,
or more beginnings of lists and objects than may be nested. -/
def Exceeds (cs : List Char) : Fault → Prop
  | .grammar _ => False
  | .tooManyDigits n => Text.maxDigits < n ∧ ∃ run, run <:+: cs ∧ run.length = n ∧ run.all Char.isDigit = true
  | .tooDeep _ => Reader.maxDepth < cs.countP opens

namespace Reader

variable {α : Type} {cs cs' : List Char} {depth depth' offset : Nat}

/-- How reading `cs` inside of `depth` lists and objects may end. -/
def Ends (depth : Nat) (cs : List Char) : Except Stop (At α) → Prop
  | .ok (_, _, rest) => rest <:+ cs
  | .error (.at _ _) => True
  | .error (.digits n) => Text.maxDigits < n ∧ ∃ run, run <:+: cs ∧ run.length = n ∧ run.all Char.isDigit = true
  | .error (.depth _) => maxDepth < depth + cs.countP opens

/-- What holds of reading a suffix holds of reading all of it. -/
theorem Ends.of_suffix {outcome : Except Stop (At α)} (h : Ends depth cs' outcome) (hs : cs' <:+ cs) :
    Ends depth cs outcome := by
  rcases outcome with (_ | n | a) | ⟨a, o, rest⟩
  · trivial
  · obtain ⟨hn, run, hrun, hlength, hdigits⟩ := h
    exact ⟨hn, run, hrun.trans hs.isInfix, hlength, hdigits⟩
  · exact Nat.lt_of_lt_of_le h (Nat.add_le_add_left (hs.sublist.countP_le) _)
  · exact h.trans hs

/-- After what was opened is one deeper. -/
theorem Ends.of_opens {c : Char} {outcome : Except Stop (At α)} (h : Ends (depth + 1) cs outcome)
    (hc : opens c = true) : Ends depth (c :: cs) outcome := by
  rcases outcome with (_ | n | a) | ⟨a, o, rest⟩
  · trivial
  · exact (show Ends depth cs (.error (.digits n) : Except Stop (At α)) from h).of_suffix (List.suffix_cons ..)
  · show maxDepth < depth + (c :: cs).countP opens
    rw [List.countP_cons_of_pos hc]
    have hdeep : maxDepth < depth + 1 + cs.countP opens := h
    omega
  · exact List.IsSuffix.trans h (List.suffix_cons ..)

/-- What may not be opened any more. -/
theorem Ends.of_depth {c : Char} {isArray : Bool} (h : maxDepth ≤ depth) (hc : opens c = true) :
    Ends depth (c :: cs) (.error (.depth isArray) : Except Stop (At α)) := by
  show maxDepth < depth + (c :: cs).countP opens
  rw [List.countP_cons_of_pos hc]
  omega

/-- What follows begins with what was left. -/
theorem Ends.bind {β : Type} {outcome : Except Stop (At α)} {f : At α → Except Stop (At β)}
    (h : Ends depth cs outcome) (hf : ∀ a o rest, rest <:+ cs → Ends depth cs (f (a, o, rest))) :
    Ends depth cs (outcome >>= f) := by
  rcases outcome with (_ | n | a) | ⟨a, o, rest⟩
  · trivial
  · exact h
  · exact h
  · exact hf a o rest h

theorem Ends.map {β : Type} {outcome : Except Stop (At α)} {f : α → β} (h : Ends depth cs outcome) :
    Ends depth cs (outcome.map fun (a, rest) => (f a, rest)) := by
  rcases outcome with (_ | n | a) | ⟨a, o, rest⟩ <;> exact h

theorem skip_suffix (offset : Nat) (cs : List Char) : (skip offset cs).2 <:+ cs := by
  induction cs generalizing offset with
  | nil => exact List.suffix_refl _
  | cons c cs ih =>
    unfold skip
    split
    · exact (ih _).trans (List.suffix_cons ..)
    · exact List.suffix_refl _

theorem suffix_of_skip {offset' : Nat} (h : skip offset cs = (offset', cs')) : cs' <:+ cs := by
  have hs := skip_suffix offset cs
  rwa [h] at hs

/-- What follows a character after blanks. -/
theorem suffix_past_skip {offset' : Nat} {c : Char} (h : skip offset cs = (offset', c :: cs')) : cs' <:+ cs :=
  (List.suffix_cons ..).trans (suffix_of_skip h)

theorem unicodeEscape_error {stop : Stop} (h : unicodeEscape offset cs = .error stop) :
    ∃ place, stop = .at .badUnicodeEscape place := by
  unfold unicodeEscape at h
  repeat' split at h
  all_goals cases h
  all_goals exact ⟨_, rfl⟩

theorem stringFrom_ends (start : Nat) (codes : List Nat) (offset pass : Nat) (cs : List Char) :
    Ends depth cs (stringFrom start codes offset pass cs) := by
  induction cs generalizing codes offset pass with
  | nil => exact True.intro
  | cons c cs ih =>
    have hs : cs <:+ c :: cs := List.suffix_cons ..
    have hon (codes : List Nat) (offset pass : Nat) :
        Ends depth (c :: cs) (stringFrom start codes offset pass cs) := (ih codes offset pass).of_suffix hs
    unfold stringFrom
    split
    next => exact hon _ _ _
    next =>
      split
      next => exact hs
      next =>
        split
        next =>
          -- an escape
          split
          next => exact True.intro
          next =>
            split
            next =>
              split
              next stop hstop =>
                obtain ⟨place, rfl⟩ := unicodeEscape_error hstop
                exact True.intro
              next => exact hon _ _ _
            next =>
              split
              next => exact True.intro
              next => exact hon _ _ _
        next =>
          split
          next => exact True.intro
          next => exact hon _ _ _

/-- A run of digits that is too long is one of the text. -/
theorem number_ends (offset : Nat) (cs : List Char) : Ends depth cs (number offset cs) := by
  unfold number
  split
  next negative body hsign =>
    extract_lets whole rest fraction rest' n finish
    have hbody : body <:+ cs := by
      split at hsign <;> cases hsign
      · exact List.suffix_cons ..
      · exact List.suffix_refl _
    have hwhole : whole <+: body ∧ whole.all Char.isDigit = true := by
      unfold whole
      split
      · exact ⟨⟨_, rfl⟩, rfl⟩
      · exact ⟨List.takeWhile_prefix _, List.all_takeWhile⟩
    have hrest : rest' <:+ cs := by
      unfold rest'
      split
      · exact (List.drop_suffix _ _).trans hbody
      · exact ((List.drop_suffix _ _).trans (List.drop_suffix _ _)).trans hbody
    split
    next => exact True.intro
    next =>
      show Ends depth cs (finish ())
      unfold finish
      split
      next signs power _ =>
        extract_lets rest'' after finish
        have hrest'' : rest'' <:+ cs := by
          unfold rest''
          split
          · exact hrest
          · exact (List.drop_suffix _ _).trans hrest
        split
        next =>
          split
          next hlong => exact ⟨hlong, whole, hwhole.1.isInfix.trans hbody.isInfix, rfl, hwhole.2⟩
          next => exact hrest''
        next => exact hrest''

/-! What each of the three readers is left with is a suffix of what it was given, and so is what it gives
to the reader that goes on with less fuel. -/

theorem value_ends {fuel : Nat}
    (hitems : ∀ depth offset done cs, Ends depth cs (items fuel depth offset done cs))
    (hmembers : ∀ depth offset done cs, Ends depth cs (members fuel depth offset done cs))
    (depth offset : Nat) (cs : List Char) : Ends depth cs (value (fuel + 1) depth offset cs) := by
  unfold value
  split
  next => exact True.intro
  next rest => exact ((stringFrom_ends offset [] (offset + 1) 0 rest).of_suffix (List.suffix_cons ..)).map
  next rest =>
    split
    next hdeep => exact .of_depth hdeep rfl
    next =>
      split
      next hskip => exact (suffix_past_skip hskip).trans (List.suffix_cons ..)
      next o more _ hskip => exact ((hmembers (depth + 1) o [] more).of_suffix (suffix_of_skip hskip)).of_opens rfl
  next rest =>
    split
    next hdeep => exact .of_depth hdeep rfl
    next =>
      split
      next hskip => exact (suffix_past_skip hskip).trans (List.suffix_cons ..)
      next o more _ hskip => exact ((hitems (depth + 1) o [] more).of_suffix (suffix_of_skip hskip)).of_opens rfl
  next =>
    split
    next j taken _ => exact List.drop_suffix _ _
    next => exact number_ends offset cs

theorem items_end {fuel : Nat} (hvalue : ∀ depth offset cs, Ends depth cs (value fuel depth offset cs))
    (hitems : ∀ depth offset done cs, Ends depth cs (items fuel depth offset done cs))
    (depth offset : Nat) (done : List Json) (cs : List Char) :
    Ends depth cs (items (fuel + 1) depth offset done cs) := by
  unfold items
  refine (hvalue depth offset cs).bind fun j offset rest hrest => ?_
  dsimp only
  split
  next hskip => exact (suffix_past_skip hskip).trans hrest
  next o more hskip =>
    have hmore := (skip_suffix (o + 1) more).trans ((suffix_past_skip hskip).trans hrest)
    exact (hitems depth _ _ _).of_suffix hmore
  next => exact True.intro

theorem members_end {fuel : Nat} (hvalue : ∀ depth offset cs, Ends depth cs (value fuel depth offset cs))
    (hmembers : ∀ depth offset done cs, Ends depth cs (members fuel depth offset done cs))
    (depth offset : Nat) (done : List (Text × Json)) (cs : List Char) :
    Ends depth cs (members (fuel + 1) depth offset done cs) := by
  unfold members
  split
  next rest =>
    have hs : rest <:+ '"' :: rest := List.suffix_cons ..
    refine ((stringFrom_ends offset [] (offset + 1) 0 rest).of_suffix hs).bind fun name offset rest hrest => ?_
    dsimp only
    split
    next o rest' hskip =>
      have hrest' := (skip_suffix (o + 1) rest').trans ((suffix_past_skip hskip).trans hrest)
      refine ((hvalue depth _ _).of_suffix hrest').bind fun j offset more hmore => ?_
      dsimp only
      split
      next hskip => exact (suffix_past_skip hskip).trans hmore
      next o more' hskip =>
        have hmore' := (skip_suffix (o + 1) more').trans ((suffix_past_skip hskip).trans hmore)
        exact (hmembers depth _ _ _).of_suffix hmore'
      next => exact True.intro
    next => exact True.intro
  next => exact True.intro

/-- Values, and the rest of lists and of objects: all three read with the fuel that one of them leaves. -/
theorem reads_end (fuel : Nat) :
    (∀ depth offset cs, Ends depth cs (value fuel depth offset cs)) ∧
    (∀ depth offset done cs, Ends depth cs (items fuel depth offset done cs)) ∧
    ∀ depth offset done cs, Ends depth cs (members fuel depth offset done cs) := by
  induction fuel with
  | zero => exact ⟨fun _ _ _ => by unfold value; exact True.intro, fun _ _ _ _ => by unfold items; exact True.intro,
      fun _ _ _ _ => by unfold members; exact True.intro⟩
  | succ fuel ih =>
    obtain ⟨hvalue, hitems, hmembers⟩ := ih
    exact ⟨value_ends hitems hmembers, items_end hvalue hitems, members_end hvalue hmembers⟩

theorem document_ends {stop : Stop} (h : document cs = .error stop) :
    Ends 0 cs (.error stop : Except Stop (At Json)) := by
  unfold document at h
  split at h
  next =>
    cases h
    exact True.intro
  next =>
    dsimp only at h
    have hvalue := ((reads_end (2 * cs.length + 2)).1 0 (skip 0 cs).1 (skip 0 cs).2).of_suffix (skip_suffix 0 cs)
    cases hj : value (2 * cs.length + 2) 0 (skip 0 cs).1 (skip 0 cs).2 with
    | error stop' =>
      rw [hj] at h hvalue
      cases h
      exact hvalue
    | ok j =>
      rw [hj] at h
      dsimp only [bind, Except.bind] at h
      split at h
      · cases h
      · cases h
        exact True.intro

/-! ## Texts beyond the limits -/

/-- Too many beginnings of lists in a row. -/
theorem value_deep (rest : List Char) {n fuel : Nat} (hdepth : depth ≤ maxDepth) (hdeep : maxDepth < depth + n)
    (hfuel : 2 * n ≤ fuel) : value fuel depth offset (List.replicate n '[' ++ rest) = .error (.depth true) := by
  induction n generalizing fuel depth offset with
  | zero => omega
  | succ n ih =>
    -- a bracket takes two units of fuel: one for the list, and one for its first item
    obtain ⟨fuel, rfl⟩ : ∃ f, fuel = f + 2 := ⟨fuel - 2, by omega⟩
    rw [List.replicate_succ, List.cons_append, value]
    split
    next => rfl
    next hroom =>
      obtain ⟨n, rfl⟩ : ∃ m, n = m + 1 := ⟨n - 1, by omega⟩
      have hskip : skip (offset + 1) (List.replicate (n + 1) '[' ++ rest) =
          (offset + 1, List.replicate (n + 1) '[' ++ rest) := rfl
      rw [hskip]
      show items (fuel + 1) (depth + 1) (offset + 1) [] (List.replicate (n + 1) '[' ++ rest) = _
      rw [items, ih (by omega) (by omega) (by omega)]
      rfl

theorem document_deep (rest : List Char) {n : Nat} (h : maxDepth < n) :
    document (List.replicate n '[' ++ rest) = .error (.depth true) := by
  obtain ⟨n, rfl⟩ : ∃ m, n = m + 1 := ⟨n - 1, by omega⟩
  have hskip : skip 0 (List.replicate (n + 1) '[' ++ rest) = (0, List.replicate (n + 1) '[' ++ rest) := rfl
  unfold document
  rw [if_neg (by simp [List.replicate_succ]), hskip]
  dsimp only
  rw [value_deep rest (Nat.zero_le _) (by omega) (by simp; omega)]
  rfl

section Digits

variable {c : Char} (hc : c.isDigit = true)
include hc

theorem ne_of_isDigit {d : Char} (hd : d.isDigit = false) : c ≠ d := by
  rintro rfl
  rw [hc] at hd
  cases hd

theorem constant?_of_isDigit (cs : List Char) : constant? (c :: cs) = none := by
  have hn : 'n' ≠ c := (ne_of_isDigit hc rfl).symm
  have ht : 't' ≠ c := (ne_of_isDigit hc rfl).symm
  have hf : 'f' ≠ c := (ne_of_isDigit hc rfl).symm
  have hN : 'N' ≠ c := (ne_of_isDigit hc rfl).symm
  have hI : 'I' ≠ c := (ne_of_isDigit hc rfl).symm
  have hminus : '-' ≠ c := (ne_of_isDigit hc rfl).symm
  simp [constant?, List.isPrefixOf, hn, ht, hf, hN, hI, hminus]

/-- What begins with a digit can only be a number. -/
theorem value_of_isDigit (fuel : Nat) (cs : List Char) :
    value (fuel + 1) depth offset (c :: cs) = number offset (c :: cs) := by
  unfold value
  split
  next h => cases h
  next h => cases h; cases hc
  next h => cases h; cases hc
  next h => cases h; cases hc
  next => rw [constant?_of_isDigit hc]

end Digits

/-- A number with too many digits. -/
theorem number_long {run : List Char} (hdigits : run.all Char.isDigit = true) (hhead : run.head? ≠ some '0')
    (hlong : Text.maxDigits < run.length) : number offset run = .error (.digits run.length) := by
  unfold number
  split
  next negative body hsign =>
    obtain rfl : body = run := by
      split at hsign
      next => cases hdigits
      next => exact (Prod.mk.inj hsign).2.symm
    extract_lets whole rest fraction rest' n finish
    have hwhole : whole = body := by
      unfold whole
      split
      next => exact absurd rfl hhead
      next => exact List.takeWhile_eq_self_iff.mpr (List.all_eq_true.mp hdigits)
    have hrest : rest = [] := by
      unfold rest
      rw [hwhole, List.drop_length]
    have hfraction : fraction = [] := by
      unfold fraction
      rw [hrest]
    have hrest' : rest' = [] := by
      unfold rest'
      rw [hfraction, hrest]
      rfl
    rw [if_neg (by rw [hwhole, List.isEmpty_iff]; rintro rfl; cases hlong)]
    show finish () = _
    unfold finish
    split
    next signs power hpower =>
      rw [hrest'] at hpower
      obtain ⟨rfl, rfl⟩ := Prod.mk.inj hpower
      extract_lets rest'' after finish
      rw [if_pos (by rw [hfraction]; rfl), hwhole, if_pos hlong]
      rfl

theorem document_digits {run : List Char} (hdigits : run.all Char.isDigit = true) (hhead : run.head? ≠ some '0')
    (hlong : Text.maxDigits < run.length) : document run = .error (.digits run.length) := by
  obtain ⟨c, cs, rfl⟩ := List.exists_cons_of_ne_nil (List.ne_nil_of_length_pos (Nat.zero_lt_of_lt hlong))
  have hc : c.isDigit = true := (Bool.and_eq_true_iff.mp (List.all_cons ▸ hdigits)).1
  have hblank : ¬ isSpace c = true := by
    have hspace : c ≠ ' ' := ne_of_isDigit hc rfl
    have htab : c ≠ '\t' := ne_of_isDigit hc rfl
    have hnewline : c ≠ '\n' := ne_of_isDigit hc rfl
    have hreturn : c ≠ '\r' := ne_of_isDigit hc rfl
    simp [isSpace, hspace, htab, hnewline, hreturn]
  have hmark : ¬ (c :: cs).head? = some '\ufeff' := fun h => ne_of_isDigit hc rfl (Option.some.inj h)
  unfold document
  rw [if_neg hmark, skip, if_neg hblank]
  dsimp only
  rw [value_of_isDigit hc, number_long hdigits hhead hlong]
  rfl

end Reader

/-- Where a limit ends the reading of a text, the text goes beyond it. -/
theorem exceeds_of_read {s : String} {f : Fault} (h : read s = .error f) (hf : ∀ g, f ≠ .grammar g) :
    Exceeds s.toList f := by
  unfold read at h
  cases hstop : Reader.document s.toList with
  | ok j => rw [hstop] at h; cases h
  | error stop =>
    have hends := Reader.document_ends hstop
    rw [hstop] at h
    obtain rfl := Except.error.inj h
    cases stop with
    | «at» kind offset => exact absurd rfl (hf _)
    | digits n => exact hends
    | depth isArray =>
      have hdeep : Reader.maxDepth < 0 + s.toList.countP opens := hends
      rwa [Nat.zero_add] at hdeep

theorem read_deep (rest : List Char) {n : Nat} (h : Reader.maxDepth < n) :
    read (.ofList (List.replicate n '[' ++ rest)) = .error (.tooDeep true) := by
  rw [read, String.toList_ofList, Reader.document_deep rest h]
  rfl

theorem read_digits {run : List Char} (hdigits : run.all Char.isDigit = true) (hhead : run.head? ≠ some '0')
    (hlong : Text.maxDigits < run.length) : read (.ofList run) = .error (.tooManyDigits run.length) := by
  rw [read, String.toList_ofList, Reader.document_digits hdigits hhead hlong]
  rfl

end ServiceTrust.Json
