/-
Listings as the tool prints them: for each entry its alias, its type, and the fingerprints of the certificates
of its chain, with lines of other kinds anywhere between. They are read back as the entries that they were
printed for, each with the fingerprint of its first certificate.
-/
import ServiceTrust.Proofs.Keystore.Listing

namespace ServiceTrust.Keystore.Listing

open Text (Unbroken Lined Newline Trimmed isBlank trimWhile)

variable {s : State}

/-! ## What is printed -/

/-- A text on one line, without white space around it. -/
structure Value where
  chars : List Char
  unbroken : Unbroken chars
  trimmed : Trimmed isBlank chars

/-- A line that starts with none of the labels. -/
structure Remark where
  chars : List Char
  unbroken : Unbroken chars
  unlabelled : ∀ label ∈ labels, ¬ label.toList <+: trimWhile isBlank chars

/-- A certificate of a chain, by its fingerprint after what else is told of it. -/
structure Shown where
  remarks : List Remark
  fingerprint : Value

/-- What is printed for an entry. -/
structure Block where
  alias_ : Value
  remarks : List Remark
  type : Value
  chain : List Shown
  more : List Remark

structure Printout where
  head : List Remark
  blocks : List Block

inductive Row where
  | alias_ (v : Value)
  | type (v : Value)
  | fingerprint (v : Value)
  | remark (r : Remark)

def Row.chars : Row → List Char
  | .alias_ v => "Alias name:".toList ++ ' ' :: v.chars
  | .type v => "Entry type:".toList ++ ' ' :: v.chars
  | .fingerprint v => ['\t', ' '] ++ ("SHA256:".toList ++ ' ' :: v.chars)
  | .remark r => r.chars

def Shown.rows (c : Shown) : List Row := c.remarks.map .remark ++ [.fingerprint c.fingerprint]

def Block.rows (b : Block) : List Row :=
  .alias_ b.alias_ :: (b.remarks.map .remark ++
    .type b.type :: (b.chain.flatMap Shown.rows ++ b.more.map .remark))

def Printout.rows (p : Printout) : List Row := p.head.map .remark ++ p.blocks.flatMap Block.rows

/-- The printed text, with the line end of the tool's system after each line. -/
def Printout.text (p : Printout) (nl : Newline) : String :=
  .ofList (p.rows.flatMap fun r => r.chars ++ nl.chars)

/-- The entry that a block was printed for. -/
def Block.entry (b : Block) : Entry where
  alias_ := .ofList b.alias_.chars
  type := .ofList b.type.chars
  sha256 := b.chain.head?.map fun c => plainFingerprint (.ofList c.fingerprint.chars)

/-! ## What its lines tell -/

def Row.line : Row → Line
  | .alias_ v => .alias_ (.ofList v.chars)
  | .type v => .type (.ofList v.chars)
  | .fingerprint v => .fingerprint (plainFingerprint (.ofList v.chars))
  | .remark _ => .other

theorem labels_unbroken : ∀ label ∈ labels, Unbroken label.toList := by decide

theorem labels_trimmed : ∀ label ∈ labels, Trimmed isBlank label.toList := by decide

theorem labels_ne_nil : ∀ label ∈ labels, label.toList ≠ [] := by decide

theorem unbroken_labelled {label : String} (hlabel : label ∈ labels) (v : Value) :
    Unbroken (label.toList ++ ' ' :: v.chars) := by
  have hspace : Unbroken [' '] := by decide
  exact (labels_unbroken label hlabel).append (hspace.append v.unbroken)

theorem isBlank_space : ∀ c ∈ [' '], isBlank c = true := List.all_eq_true.mp rfl

/-- Trimming takes the white space before a label, and that after it if nothing follows. -/
theorem trimWhile_labelled {label : String} (hlabel : label ∈ labels) (pad : List Char)
    (hpad : ∀ c ∈ pad, isBlank c = true) (v : Value) :
    ∃ rest, trimWhile isBlank (pad ++ (label.toList ++ ' ' :: v.chars)) = label.toList ++ rest ∧
      trimWhile isBlank rest = v.chars := by
  have htrimmed := labels_trimmed label hlabel
  rcases eq_or_ne v.chars [] with hv | hv
  · refine ⟨[], ?_, hv.symm⟩
    rw [hv, Text.trimWhile_eq_iff, List.append_nil]
    exact ⟨htrimmed, pad, [' '], by rw [List.append_assoc], hpad, isBlank_space⟩
  · refine ⟨' ' :: v.chars, ?_, ?_⟩
    · rw [Text.trimWhile_eq_iff]
      refine ⟨⟨fun c hc => ?_, fun c hc => ?_⟩, pad, [], by simp, hpad, by simp⟩
      · rw [List.head?_append_of_ne_nil _ (labels_ne_nil label hlabel)] at hc
        exact htrimmed.head c hc
      · rw [List.append_cons, List.getLast?_append_of_ne_nil _ hv] at hc
        exact v.trimmed.last c hc
    · rw [Text.trimWhile_eq_iff]
      exact ⟨v.trimmed, [' '], [], by simp, isBlank_space, by simp⟩

theorem Row.unbroken (r : Row) : Unbroken r.chars := by
  cases r with
  | alias_ v => exact unbroken_labelled (by decide) v
  | type v => exact unbroken_labelled (by decide) v
  | fingerprint v => exact .append (by decide) (unbroken_labelled (by decide) v)
  | remark r => exact r.unbroken

theorem Row.tells (r : Row) : Tells r.chars r.line := by
  cases r with
  | alias_ v =>
    obtain ⟨rest, hrow, hrest⟩ := trimWhile_labelled (by decide : "Alias name:" ∈ labels) [] nofun v
    have htells := Tells.alias_ hrow
    rwa [hrest] at htells
  | type v =>
    obtain ⟨rest, hrow, hrest⟩ := trimWhile_labelled (by decide : "Entry type:" ∈ labels) [] nofun v
    have htells := Tells.type hrow
    rwa [hrest] at htells
  | fingerprint v =>
    obtain ⟨rest, hrow, hrest⟩ :=
      trimWhile_labelled (by decide : "SHA256:" ∈ labels) ['\t', ' '] (List.all_eq_true.mp rfl) v
    have htells := Tells.fingerprint hrow
    rwa [hrest] at htells
  | remark r => exact .other r.unlabelled

theorem lined_rows (nl : Newline) (rows : List Row) :
    Lined (rows.flatMap fun r => r.chars ++ nl.chars) (rows.map Row.chars) := by
  induction rows with
  | nil => exact .none
  | cons r rows ih => exact .cons r.unbroken (nl.ends _) ih

theorem parse_text (p : Printout) (nl : Newline) :
    parse (p.text nl) = ((p.rows.map Row.line).foldl State.step {}).done.reverse := by
  have hlined : Lined (p.text nl).toList (p.rows.map Row.chars) := by
    rw [Printout.text, String.toList_ofList]
    exact lined_rows nl p.rows
  have hlines : (p.rows.map Row.chars).map (Line.ofString ∘ String.ofList) = p.rows.map Row.line := by
    rw [List.map_map]
    exact List.map_congr_left fun r _ => ofString_eq_iff.mpr r.tells
  rw [parse, Text.lines_eq_of_lined hlined, List.map_map, hlines]

/-! ## Entry by entry -/

theorem foldl_remarks (rs : List Remark) (s : State) :
    ((rs.map Row.remark).map Row.line).foldl State.step s = s := by
  induction rs with
  | nil => rfl
  | cons r rs ih => exact ih

theorem foldl_shown (c : Shown) (s : State) :
    (c.rows.map Row.line).foldl State.step s =
      s.step (.fingerprint (plainFingerprint (.ofList c.fingerprint.chars))) := by
  rw [Shown.rows, List.map_append, List.foldl_append, foldl_remarks]
  rfl

/-- Of a chain the reader takes the first certificate, unless it has a fingerprint for the entry. -/
theorem foldl_chain (chain : List Shown) (e : Entry) (es : List Entry) (pending : Option String) :
    ((chain.flatMap Shown.rows).map Row.line).foldl State.step ⟨e :: es, pending⟩ =
      ⟨{ e with sha256 := e.sha256 <|> chain.head?.map fun c => plainFingerprint (.ofList c.fingerprint.chars) }
        :: es, pending⟩ := by
  induction chain generalizing e with
  | nil => cases h : e.sha256 <;> simp [← h]
  | cons c chain ih =>
    rw [List.flatMap_cons, List.map_append, List.foldl_append, foldl_shown]
    obtain ⟨a, t, _ | f⟩ := e
    · exact ih _
    · exact ih _

theorem foldl_block (b : Block) (s : State) :
    (b.rows.map Row.line).foldl State.step s = ⟨b.entry :: s.done, none⟩ := by
  have hentry : (s.step (Row.alias_ b.alias_).line).step (Row.type b.type).line =
      ⟨⟨.ofList b.alias_.chars, .ofList b.type.chars, none⟩ :: s.done, none⟩ := rfl
  rw [Block.rows, List.map_cons, List.foldl_cons, List.map_append, List.foldl_append, foldl_remarks,
    List.map_cons, List.foldl_cons, hentry, List.map_append, List.foldl_append, foldl_chain, foldl_remarks]
  rfl

theorem foldl_blocks (bs : List Block) (s : State) :
    (((bs.flatMap Block.rows).map Row.line).foldl State.step s).done =
      (bs.map Block.entry).reverse ++ s.done := by
  induction bs generalizing s with
  | nil => rfl
  | cons b bs ih =>
    rw [List.flatMap_cons, List.map_append, List.foldl_append, foldl_block, ih, List.map_cons,
      List.reverse_cons, List.append_assoc, List.singleton_append]

theorem parse_printout (p : Printout) (nl : Newline) : parse (p.text nl) = p.blocks.map Block.entry := by
  rw [parse_text, Printout.rows, List.map_append, List.foldl_append, foldl_remarks, foldl_blocks,
    List.append_nil, List.reverse_reverse]

/-! ## Fingerprints -/

/-- The digits of a digest. -/
def digits (digest : Bytes) : List Char := digest.flatMap fun b => Text.hexPadded 2 b.toNat

theorem lowerAfter_ascii {before cs : List Char} (h : ∀ c ∈ cs, c.toNat < 0x80) :
    Text.lowerAfter before cs = cs.map Char.toLower := by
  induction cs generalizing before with
  | nil => rfl
  | cons c cs ih =>
    have hc : c.toNat < 0x80 := h c List.mem_cons_self
    have hdotted : c ≠ '\u0130' := by
      rintro rfl
      exact absurd hc (by decide)
    have hsigma : c ≠ '\u03a3' := by
      rintro rfl
      exact absurd hc (by decide)
    rw [Text.lowerAfter, if_neg hdotted, if_neg hsigma, Text.lowerChar, if_pos hc,
      ih fun c hmem => h c (List.mem_cons_of_mem _ hmem)]
    rfl

theorem filter_coloned {cs : List Char} (h : ∀ c ∈ cs, c.toUpper ≠ ':') :
    (Reference.coloned cs).filter (· ≠ ':') = cs.map Char.toUpper := by
  fun_induction Reference.coloned cs with
  | case1 a b c cs ih =>
    simp only [List.forall_mem_cons] at h
    obtain ⟨ha, hb, hc, hcs⟩ := h
    rw [List.filter_cons_of_pos (by simpa using ha), List.filter_cons_of_pos (by simpa using hb),
      List.filter_cons_of_neg (by decide), ih (List.forall_mem_cons.mpr ⟨hc, hcs⟩)]
    rfl
  | case2 cs =>
    rw [List.filter_eq_self]
    intro c hc
    obtain ⟨d, hd, rfl⟩ := List.mem_map.mp hc
    exact decide_eq_true (h d hd)

theorem hexDigit_upper : ∀ n < 16, (Text.hexDigit n).toUpper ≠ ':' ∧ (Text.hexDigit n).toUpper.toNat < 0x80 ∧
    (Text.hexDigit n).toUpper.toLower = Text.hexDigit n := by
  decide

theorem mem_digits {digest : Bytes} {c : Char} (hc : c ∈ digits digest) : ∃ n < 16, c = Text.hexDigit n := by
  obtain ⟨b, -, hc⟩ := List.mem_flatMap.mp hc
  simp only [Text.hexPadded, List.nil_append, List.singleton_append, List.mem_cons, List.not_mem_nil,
    or_false] at hc
  rcases hc with rfl | rfl
  · exact ⟨_, Nat.mod_lt _ (by decide), rfl⟩
  · exact ⟨_, Nat.mod_lt _ (by decide), rfl⟩

/-- A digest that is printed in pairs of capital digits is read as its digits. -/
theorem plainFingerprint_coloned (digest : Bytes) :
    plainFingerprint (.ofList (Reference.coloned (digits digest))) = .ofList (digits digest) := by
  have hupper {c : Char} (hc : c ∈ digits digest) :
      c.toUpper ≠ ':' ∧ c.toUpper.toNat < 0x80 ∧ c.toUpper.toLower = c := by
    obtain ⟨n, hn, rfl⟩ := mem_digits hc
    exact hexDigit_upper n hn
  have hascii : ∀ c ∈ (digits digest).map Char.toUpper, c.toNat < 0x80 := by
    intro c hc
    obtain ⟨d, hd, rfl⟩ := List.mem_map.mp hc
    exact (hupper hd).2.1
  rw [plainFingerprint, String.toList_ofList, filter_coloned fun c hc => (hupper hc).1, Text.lower,
    String.toList_ofList, lowerAfter_ascii hascii, List.map_map]
  exact congrArg String.ofList ((List.map_congr_left fun c hc => (hupper hc).2.2).trans (List.map_id _))

/-! ## The main theorem -/

/-- The entries read off any text are those that its lines tell of, line by line as they stand; and a printout
is read as the entries that it was printed for, in which a digest is its digits. -/
theorem parse_meaning :
    (∀ output : String, ∃ ls told, Lined output.toList ls ∧ List.Forall₂ Tells ls told ∧
      Reads told (parse output)) ∧
    (∀ (p : Printout) (nl : Newline), parse (p.text nl) = p.blocks.map Block.entry) ∧
    ∀ digest : Bytes,
      plainFingerprint (.ofList (Reference.coloned (digits digest))) = .ofList (digits digest) := by
  refine ⟨fun output => ?_, parse_printout, plainFingerprint_coloned⟩
  have hlined : Lined output.toList (Text.linesFrom [] output.toList) := Text.linesFrom_eq_iff.mp rfl
  refine ⟨_, _, hlined, ?_, reads_scanned _⟩
  rw [Text.lines_eq_of_lined hlined, List.map_map, List.forall₂_map_right_iff, List.forall₂_same]
  exact fun raw _ => ofString_eq_iff.mp rfl

end ServiceTrust.Keystore.Listing
