import Playout.Stream.Format
import Mathlib

/-!
# Reading a stream description

An `fmtp` line is read as white-space separated words: eleven numbers, or twelve words of which
the first is dropped. A number is an optional `+` and one or more ASCII digits, of a value that
fits its field. The main result, `ofFmtp_reads_its_grammar`, says that the line is accepted
exactly when it has this form and then gives the numbers in order; that a refusal names the
word count, or the first number that does not fit and its text; and that every description
written out in decimal, with or without a leading word, reads back as itself.
-/

namespace Playout

/-! ## Sequences in `Except` -/

section MapM

variable {α β ε : Type} {f : α → Except ε β}

theorem forall₂_of_mapM_eq_ok {l : List α} {vs : List β} (h : l.mapM f = .ok vs) :
    List.Forall₂ (fun a v => f a = .ok v) l vs := by
  induction l generalizing vs with
  | nil =>
    cases h
    exact .nil
  | cons a l ih =>
    rw [List.mapM_cons] at h
    cases hf : f a with
    | error e => simp [hf, bind, Except.bind] at h
    | ok b =>
      cases hl : l.mapM f with
      | error e => simp [hf, hl, bind, Except.bind] at h
      | ok bs =>
        simp only [hf, hl, bind, Except.bind, pure, Except.pure, Except.ok.injEq] at h
        subst h
        exact .cons hf (ih hl)

theorem mapM_eq_ok_of_forall₂ {l : List α} {vs : List β} (h : List.Forall₂ (fun a v => f a = .ok v) l vs) :
    l.mapM f = .ok vs := by
  induction h with
  | nil => rfl
  | cons hf _ ih => simp [List.mapM_cons, hf, ih, bind, Except.bind, pure, Except.pure]

theorem mapM_eq_ok_iff {l : List α} {vs : List β} :
    l.mapM f = .ok vs ↔ List.Forall₂ (fun a v => f a = .ok v) l vs :=
  ⟨forall₂_of_mapM_eq_ok, mapM_eq_ok_of_forall₂⟩

/-- A sequence fails with the error of its first failing member. -/
theorem mapM_eq_error {l : List α} {e : ε} {i : Nat} (hi : i < l.length)
    (hok : ∀ a ∈ l.take i, ∃ v, f a = .ok v) (herr : f l[i] = .error e) : l.mapM f = .error e := by
  induction l generalizing i with
  | nil => cases hi
  | cons a l ih =>
    rw [List.mapM_cons]
    cases i with
    | zero =>
      rw [List.getElem_cons_zero] at herr
      simp [herr, bind, Except.bind]
    | succ i =>
      obtain ⟨b, hb⟩ := hok a (by simp)
      have hrest := ih (i := i) (by simpa using hi) (fun x hx => hok x (by simp [hx])) (by simpa using herr)
      simp [hb, hrest, bind, Except.bind]

theorem map_eq_ok_iff {γ : Type} {g : β → γ} {x : Except ε β} {c : γ} :
    g <$> x = .ok c ↔ ∃ b, x = .ok b ∧ g b = c := by
  cases x <;> simp [Functor.map, Except.map]

end MapM

theorem map_getD_range {α : Type} (l : List α) (d : α) : (List.range l.length).map (l.getD · d) = l := by
  apply List.ext_getElem (by simp)
  intro i _ h
  simp only [List.getElem_map, List.getElem_range]
  exact List.getD_eq_getElem _ _ h

/-! ## Numerals -/

namespace Text

/-- `t` is a decimal numeral of value `v`: an optional `+`, then one or more ASCII digits. -/
def IsNumeral (t : String) (v : Nat) : Prop :=
  ∃ ds : List Char, (t.toList = ds ∨ t.toList = '+' :: ds) ∧ ds ≠ [] ∧ (∀ c ∈ ds, c.isDigit) ∧
    Nat.ofDigitChars 10 ds 0 = v

/-- One character of a numeral: a digit extends the value read so far, anything else ends the
reading. -/
def digitStep (acc : Option Nat) (c : Char) : Option Nat :=
  acc.bind fun v => if c.isDigit then some (10 * v + (c.toNat - 48)) else none

theorem digitsValue_eq (cs : List Char) :
    digitsValue cs = if cs.isEmpty then none else cs.foldl digitStep (some 0) := rfl

theorem foldl_digitStep_none (cs : List Char) : cs.foldl digitStep none = none := by
  induction cs with
  | nil => rfl
  | cons c cs ih => exact ih

theorem foldl_digitStep (cs : List Char) (a : Nat) :
    cs.foldl digitStep (some a) = if ∀ c ∈ cs, c.isDigit then some (Nat.ofDigitChars 10 cs a) else none := by
  induction cs generalizing a with
  | nil => simp [Nat.ofDigitChars_nil]
  | cons c cs ih =>
    by_cases hc : c.isDigit
    · have hstep : digitStep (some a) c = some (10 * a + (c.toNat - '0'.toNat)) := by
        simp [digitStep, hc]
      simp [hstep, ih, Nat.ofDigitChars_cons, hc]
    · have hstep : digitStep (some a) c = none := by simp [digitStep, hc]
      simp [hstep, foldl_digitStep_none, hc]

theorem digitsValue_eq_some_iff {cs : List Char} {v : Nat} :
    digitsValue cs = some v ↔ cs ≠ [] ∧ (∀ c ∈ cs, c.isDigit) ∧ Nat.ofDigitChars 10 cs 0 = v := by
  rw [digitsValue_eq, foldl_digitStep]
  cases cs with
  | nil => simp
  | cons c cs => by_cases h : ∀ d ∈ c :: cs, d.isDigit <;> simp [h]

theorem isNumeral_iff_of_plus {t : String} {rest : List Char} {v : Nat} (h : t.toList = '+' :: rest) :
    IsNumeral t v ↔ digitsValue rest = some v := by
  rw [digitsValue_eq_some_iff, IsNumeral, h]
  constructor
  · rintro ⟨ds, hform, hds⟩
    rcases hform with rfl | hform
    -- the sign is no digit, so the digits are all that follows it
    · simp at hds
    · rw [List.cons.injEq] at hform
      rw [hform.2]
      exact hds
  · intro hds
    exact ⟨rest, .inr rfl, hds⟩

theorem isNumeral_iff_of_not_plus {t : String} {v : Nat} (h : ∀ rest, t.toList ≠ '+' :: rest) :
    IsNumeral t v ↔ digitsValue t.toList = some v := by
  rw [digitsValue_eq_some_iff, IsNumeral]
  constructor
  · rintro ⟨ds, hform, hds⟩
    rcases hform with hform | hform
    · rw [hform]
      exact hds
    · exact absurd hform (h ds)
  · intro hds
    exact ⟨t.toList, .inl rfl, hds⟩

/-- A numeral below the bound is read as its value, and nothing else is read. -/
theorem parseUnsigned_eq_some_iff {t : String} {bound v : Nat} :
    parseUnsigned t bound = some v ↔ IsNumeral t v ∧ v < bound := by
  unfold parseUnsigned
  dsimp only
  split
  · rename_i w hw
    split at hw
    · rename_i rest hplus
      rw [isNumeral_iff_of_plus hplus, hw]
      by_cases hlt : w < bound <;> simp [hlt] <;> omega
    · rename_i hplus
      rw [isNumeral_iff_of_not_plus hplus, hw]
      by_cases hlt : w < bound <;> simp [hlt] <;> omega
  · rename_i hw
    split at hw
    · rename_i rest hplus
      simp [isNumeral_iff_of_plus hplus, hw]
    · rename_i hplus
      simp [isNumeral_iff_of_not_plus hplus, hw]

theorem isNumeral_repr (n : Nat) : IsNumeral n.repr n :=
  ⟨Nat.toDigits 10 n, .inl Nat.toList_repr, Nat.toDigits_ne_nil,
    fun _ hc => Nat.isDigit_of_mem_toDigits (by decide) (by decide) hc, Nat.ofDigitChars_ten_toDigits⟩

/-! ## Words -/

/-- The pieces of `cs` between white-space characters, the empty ones dropped. -/
def wordsOf (cs : List Char) : List (List Char) :=
  (cs.splitOnP isWhiteSpace).filter fun w => !w.isEmpty

/-- The words of `s`, as splitting at every white-space character and dropping the empty pieces
gives them. -/
def splitWhitespace (s : String) : List String :=
  (wordsOf s.toList).map String.ofList

/-- A word: at least one character, and none of them white space. -/
def IsWord (w : String) : Prop :=
  w ≠ "" ∧ ∀ c ∈ w.toList, isWhiteSpace c = false

/-- `s` writes the words `ws` in order: white space may stand before the first, and a run of it
follows each word, empty only after the last. -/
def Spaced (ws : List String) (s : String) : Prop :=
  ∃ pre seps, s = pre ++ String.join (List.zipWith (· ++ ·) ws seps) ∧ seps.length = ws.length ∧
    (∀ c ∈ pre.toList, isWhiteSpace c) ∧ (∀ sep ∈ seps, ∀ c ∈ sep.toList, isWhiteSpace c) ∧
    ∀ sep ∈ seps.dropLast, sep ≠ ""

theorem wordsOf_nil : wordsOf [] = [] := rfl

theorem wordsOf_append_cons {a b : List Char} {c : Char} (hc : isWhiteSpace c) :
    wordsOf (a ++ c :: b) = wordsOf a ++ wordsOf b := by
  rw [wordsOf, List.splitOnP_append_cons a b hc, List.filter_append]
  rfl

theorem wordsOf_of_word {w : List Char} (hne : w ≠ []) (hw : ∀ c ∈ w, isWhiteSpace c = false) :
    wordsOf w = [w] := by
  rw [wordsOf, List.splitOnP_eq_singleton hw]
  simp [hne]

theorem wordsOf_blank_append {b a : List Char} (hb : ∀ c ∈ b, isWhiteSpace c) : wordsOf (b ++ a) = wordsOf a := by
  induction b with
  | nil => rfl
  | cons c b ih =>
    have hc : isWhiteSpace c := hb c List.mem_cons_self
    have hrest := ih fun d hd => hb d (List.mem_cons_of_mem c hd)
    rw [List.cons_append, ← List.nil_append (c :: _), wordsOf_append_cons hc, hrest, wordsOf_nil, List.nil_append]

/-- One character of `words`: white space ends the word being read, anything else extends it. -/
def wordStep (acc : List String × List Char) (c : Char) : List String × List Char :=
  if isWhiteSpace c then
    if acc.2.isEmpty then acc else (String.ofList acc.2.reverse :: acc.1, [])
  else (acc.1, c :: acc.2)

/-- The words once the text is read: the word being read, if any, ends too. -/
def wordsFinish (acc : List String × List Char) : List String :=
  (if acc.2.isEmpty then acc.1 else String.ofList acc.2.reverse :: acc.1).reverse

theorem words_eq_foldl (s : String) : words s = wordsFinish (s.toList.foldl wordStep ([], [])) := rfl

/-- Reading on from the words `done` and the word `cur` being read (kept reversed) gives the
words of what is not yet closed: `cur` followed by the rest of the text. -/
theorem wordsFinish_foldl (cs : List Char) (done : List String) (cur : List Char)
    (hcur : ∀ c ∈ cur, isWhiteSpace c = false) :
    wordsFinish (cs.foldl wordStep (done, cur)) = done.reverse ++ (wordsOf (cur.reverse ++ cs)).map String.ofList := by
  induction cs generalizing done cur with
  | nil =>
    rw [List.foldl_nil, List.append_nil]
    cases cur with
    | nil => simp [wordsFinish, wordsOf_nil]
    | cons c cur =>
      have hw := wordsOf_of_word (w := (c :: cur).reverse) (by simp) fun d hd => hcur d (List.mem_reverse.1 hd)
      rw [hw]
      simp [wordsFinish]
  | cons c cs ih =>
    rw [List.foldl_cons]
    by_cases hc : isWhiteSpace c
    · rw [wordsOf_append_cons hc]
      cases cur with
      | nil =>
        have hstep : wordStep (done, []) c = (done, []) := by simp [wordStep, hc]
        rw [hstep, ih done [] (by simp)]
        simp [wordsOf_nil]
      | cons d cur =>
        have hstep : wordStep (done, d :: cur) c = (String.ofList (d :: cur).reverse :: done, []) := by
          simp [wordStep, hc]
        have hw := wordsOf_of_word (w := (d :: cur).reverse) (by simp) fun e he => hcur e (List.mem_reverse.1 he)
        rw [hstep, ih _ [] (by simp), hw]
        simp
    · have hc' : isWhiteSpace c = false := by simpa using hc
      have hstep : wordStep (done, cur) c = (done, c :: cur) := by simp [wordStep, hc']
      rw [hstep, ih done (c :: cur) (by simpa [hc'] using hcur)]
      simp

theorem words_eq_splitWhitespace (s : String) : words s = splitWhitespace s := by
  rw [words_eq_foldl, wordsFinish_foldl _ [] [] (by simp)]
  simp [splitWhitespace]

/-- Words written apart by white space split back into the same words. -/
theorem wordsOf_joined {ws seps : List String} (hws : ∀ w ∈ ws, IsWord w) (hlen : seps.length = ws.length)
    (hblank : ∀ sep ∈ seps, ∀ c ∈ sep.toList, isWhiteSpace c) (hne : ∀ sep ∈ seps.dropLast, sep ≠ "") :
    wordsOf (String.join (List.zipWith (· ++ ·) ws seps)).toList = ws.map String.toList := by
  induction ws generalizing seps with
  | nil => simp [String.join_nil, wordsOf_nil]
  | cons w ws ih =>
    obtain ⟨sep, seps, rfl⟩ := List.exists_cons_of_length_eq_add_one hlen
    obtain ⟨hw, hword⟩ := hws w List.mem_cons_self
    have hwords : wordsOf w.toList = [w.toList] := wordsOf_of_word (by simpa [String.toList_eq_nil_iff] using hw) hword
    rw [List.zipWith_cons_cons, String.join_cons, String.toList_append, String.toList_append, List.append_assoc]
    cases hsep : sep.toList with
    | nil =>
      -- an empty run only follows the last word
      have hseps : seps = [] := by
        by_contra hseps
        exact hne sep (by simp [List.dropLast_cons_of_ne_nil hseps]) (String.toList_eq_nil_iff.1 hsep)
      subst hseps
      obtain rfl : ws = [] := List.eq_nil_of_length_eq_zero (by simpa using hlen.symm)
      simp [hwords]
    | cons c rest =>
      have hc : isWhiteSpace c := hblank sep List.mem_cons_self c (by simp [hsep])
      have hrest : ∀ d ∈ rest, isWhiteSpace d := fun d hd => hblank sep List.mem_cons_self d (by simp [hsep, hd])
      have hne' : ∀ s ∈ seps.dropLast, s ≠ "" := by
        intro s hs
        cases seps with
        | nil => simp at hs
        | cons t seps => exact hne s (by rw [List.dropLast_cons_of_ne_nil (List.cons_ne_nil t seps)]; exact List.mem_cons_of_mem _ hs)
      rw [List.cons_append, wordsOf_append_cons hc, wordsOf_blank_append hrest, hwords,
        ih (fun v hv => hws v (List.mem_cons_of_mem w hv)) (by simpa using hlen)
          (fun s hs => hblank s (List.mem_cons_of_mem sep hs)) hne']
      rfl

theorem splitWhitespace_of_spaced {ws : List String} {s : String} (hws : ∀ w ∈ ws, IsWord w) (h : Spaced ws s) :
    splitWhitespace s = ws := by
  obtain ⟨pre, seps, rfl, hlen, hpre, hblank, hne⟩ := h
  rw [splitWhitespace, String.toList_append, wordsOf_blank_append hpre, wordsOf_joined hws hlen hblank hne]
  simp

theorem isWhiteSpace_of_isDigit {c : Char} (h : c.isDigit) : isWhiteSpace c = false := by
  simp only [Char.isDigit, Bool.and_eq_true, decide_eq_true_eq, UInt32.le_iff_toNat_le] at h
  have hdigit : c.val.toNat ≥ 48 ∧ c.val.toNat ≤ 57 := h
  simp only [isWhiteSpace, Char.toNat, Bool.or_eq_false_iff, Bool.and_eq_false_iff, decide_eq_false_iff_not,
    beq_eq_false_iff_ne]
  omega

theorem isWord_repr (n : Nat) : IsWord n.repr :=
  ⟨Nat.repr_ne_empty, fun _ hc => isWhiteSpace_of_isDigit
    (Nat.isDigit_of_mem_toDigits (by decide) (by decide) (Nat.toList_repr ▸ hc))⟩

end Text

/-! ## Descriptions -/

namespace AlacConfig

/-- The eleven numbers of a description, in the order a line gives them. -/
def fields (c : AlacConfig) : List Nat :=
  [c.frameLength.toNat, c.compatibleVersion.toNat, c.bitDepth.toNat, c.pb.toNat, c.mb.toNat, c.kb.toNat,
    c.numChannels.toNat, c.maxRun.toNat, c.maxFrameBytes.toNat, c.avgBitRate.toNat, c.sampleRate.toNat]

/-- The width of each field: its value stays below this bound. -/
def fieldBounds : List Nat :=
  [Nat.pow 2 32, 256, 256, 256, 256, 256, 256, 65536, Nat.pow 2 32, Nat.pow 2 32, Nat.pow 2 32]

/-- The description holding the given numbers, each cut to the width of its field. -/
def ofValues (vs : List Nat) : AlacConfig :=
  ⟨UInt32.ofNat (vs.getD 0 0), UInt8.ofNat (vs.getD 1 0), UInt8.ofNat (vs.getD 2 0), UInt8.ofNat (vs.getD 3 0),
    UInt8.ofNat (vs.getD 4 0), UInt8.ofNat (vs.getD 5 0), UInt8.ofNat (vs.getD 6 0), UInt16.ofNat (vs.getD 7 0),
    UInt32.ofNat (vs.getD 8 0), UInt32.ofNat (vs.getD 9 0), UInt32.ofNat (vs.getD 10 0)⟩

/-- The numbers of a line: its last eleven words. -/
def fmtpNumbers (line : String) : List String :=
  (Text.splitWhitespace line).drop ((Text.splitWhitespace line).length - 11)

/-- Word `t` reads as a number that fits field `i`. -/
def Fits (t : String) (i : Nat) : Prop :=
  ∃ v, Text.IsNumeral t v ∧ v < fieldBounds.getD i 0

theorem range_eleven : List.range 11 = [0, 1, 2, 3, 4, 5, 6, 7, 8, 9, 10] := rfl

theorem ofValues_fields (c : AlacConfig) : ofValues c.fields = c := by
  cases c
  simp [ofValues, fields]

theorem fields_lt (c : AlacConfig) :
    List.Forall₂ (fun i v => v < fieldBounds.getD i 0) (List.range 11) c.fields := by
  simp only [range_eleven, fields, fieldBounds, List.forall₂_cons, List.getD_cons_zero, List.getD_cons_succ,
    List.Forall₂.nil, and_true]
  exact ⟨c.frameLength.toNat_lt, c.compatibleVersion.toNat_lt, c.bitDepth.toNat_lt, c.pb.toNat_lt, c.mb.toNat_lt,
    c.kb.toNat_lt, c.numChannels.toNat_lt, c.maxRun.toNat_lt, c.maxFrameBytes.toNat_lt, c.avgBitRate.toNat_lt,
    c.sampleRate.toNat_lt⟩

/-- Numbers that fit their fields are the fields of the description made from them. -/
theorem fields_ofValues {vs : List Nat} (h : List.Forall₂ (fun i v => v < fieldBounds.getD i 0) (List.range 11) vs) :
    (ofValues vs).fields = vs := by
  have hlen : vs.length = 11 := by simpa using h.length_eq.symm
  have hmod : (ofValues vs).fields = (List.range 11).map fun i => vs.getD i 0 % fieldBounds.getD i 0 := by
    simp [ofValues, fields, fieldBounds, range_eleven]
  rw [hmod]
  apply List.ext_getElem (by simp [hlen])
  intro i h₁ h₂
  have hi := (List.forall₂_iff_get.1 h).2 i (by simpa using h₁) h₂
  simp only [List.get_eq_getElem, List.getElem_range] at hi
  simp only [List.getElem_map, List.getElem_range, List.getD_eq_getElem _ _ h₂]
  exact Nat.mod_eq_of_lt hi

theorem fmtpField_eq_ok_iff {fs : List String} {i bound v : Nat} :
    fmtpField fs i bound = .ok v ↔ Text.IsNumeral (fs.getD i "") v ∧ v < bound := by
  rw [← Text.parseUnsigned_eq_some_iff]
  unfold fmtpField
  dsimp only
  split <;> simp_all

/-- A word that is no number below the bound is refused with its index and its text. -/
theorem fmtpField_eq_error {fs : List String} {i bound : Nat}
    (h : ∀ v, Text.IsNumeral (fs.getD i "") v → bound ≤ v) :
    fmtpField fs i bound = .error (.invalidFmtp ("bad field " ++ toString i ++ ": " ++ fs.getD i "")) := by
  unfold fmtpField
  dsimp only
  split
  · rename_i v hv
    obtain ⟨hnum, hlt⟩ := Text.parseUnsigned_eq_some_iff.1 hv
    exact absurd (h v hnum) (by omega)
  · rfl

/-- Reading a line: the word count is checked, then the numbers are read in turn. -/
theorem ofFmtp_eq (line : String) : ofFmtp line =
    if (Text.splitWhitespace line).length = 11 ∨ (Text.splitWhitespace line).length = 12 then
      ofValues <$> (List.range 11).mapM fun i => fmtpField (fmtpNumbers line) i (fieldBounds.getD i 0)
    else .error (.invalidFmtp ("expected 11 or 12 fields, got " ++ toString (Text.splitWhitespace line).length)) := by
  unfold ofFmtp fmtpNumbers
  rw [Text.words_eq_splitWhitespace]
  generalize Text.splitWhitespace line = ws
  -- both sides read the same eleven fields in the same order
  simp only [range_eleven, List.mapM_cons, List.mapM_nil, bind_assoc, pure_bind, bind_map_left, map_bind, map_pure]
  split
  · rename_i h
    rw [if_pos (.inr h), h, show 12 - 11 = 1 from rfl, List.drop_one]
    rfl
  · rename_i h
    rw [if_pos (.inl h), h, show 11 - 11 = 0 from rfl, List.drop_zero]
    rfl
  · rename_i h12 h11
    rw [if_neg (not_or.2 ⟨h11, h12⟩)]
    rfl

theorem fmtpNumbers_length {line : String}
    (hcount : (Text.splitWhitespace line).length = 11 ∨ (Text.splitWhitespace line).length = 12) :
    (fmtpNumbers line).length = 11 := by
  simp only [fmtpNumbers, List.length_drop]
  omega

/-- Eleven words read as numbers that fit their fields exactly when they are numerals of the
fields of the description made from those numbers. -/
theorem exists_values_iff {fs : List String} {c : AlacConfig} (hlen : fs.length = 11) :
    (∃ vs, List.Forall₂ (fun i v => Text.IsNumeral (fs.getD i "") v ∧ v < fieldBounds.getD i 0)
        (List.range 11) vs ∧ ofValues vs = c) ↔
      List.Forall₂ Text.IsNumeral fs c.fields := by
  -- the words are read by index, as the reader does
  have hfs : ∀ vs, List.Forall₂ Text.IsNumeral fs vs ↔
      List.Forall₂ (fun i v => Text.IsNumeral (fs.getD i "") v) (List.range 11) vs := by
    intro vs
    conv_lhs => rw [← map_getD_range fs ""]
    rw [List.forall₂_map_left_iff, hlen]
  constructor
  · rintro ⟨vs, h, rfl⟩
    rw [fields_ofValues (h.imp fun _ _ => And.right), hfs]
    exact h.imp fun _ _ => And.left
  · intro h
    rw [hfs] at h
    exact ⟨c.fields, List.Forall₂.mp (fun _ _ => And.intro) h (fields_lt c), ofValues_fields c⟩

theorem ofFmtp_eq_ok_iff {line : String} {c : AlacConfig} :
    ofFmtp line = .ok c ↔
      ((Text.splitWhitespace line).length = 11 ∨ (Text.splitWhitespace line).length = 12) ∧
        List.Forall₂ Text.IsNumeral (fmtpNumbers line) c.fields := by
  rw [ofFmtp_eq]
  split_ifs with hcount
  · simp only [map_eq_ok_iff, mapM_eq_ok_iff, fmtpField_eq_ok_iff, hcount, true_and]
    exact exists_values_iff (fmtpNumbers_length hcount)
  · simp [hcount]

theorem ofFmtp_count_error {line : String} (h11 : (Text.splitWhitespace line).length ≠ 11)
    (h12 : (Text.splitWhitespace line).length ≠ 12) :
    ofFmtp line = .error (.invalidFmtp ("expected 11 or 12 fields, got " ++
      toString (Text.splitWhitespace line).length)) := by
  rw [ofFmtp_eq, if_neg (not_or.2 ⟨h11, h12⟩)]

/-- With the count right, the first number that does not fit is the one reported. -/
theorem ofFmtp_field_error {line : String} {i : Nat}
    (hcount : (Text.splitWhitespace line).length = 11 ∨ (Text.splitWhitespace line).length = 12) (hi : i < 11)
    (hfits : ∀ j < i, Fits ((fmtpNumbers line).getD j "") j) (hbad : ¬ Fits ((fmtpNumbers line).getD i "") i) :
    ofFmtp line = .error (.invalidFmtp ("bad field " ++ toString i ++ ": " ++ (fmtpNumbers line).getD i "")) := by
  have herr : fmtpField (fmtpNumbers line) i (fieldBounds.getD i 0) =
      .error (.invalidFmtp ("bad field " ++ toString i ++ ": " ++ (fmtpNumbers line).getD i "")) :=
    fmtpField_eq_error fun v hv => Nat.le_of_not_lt fun hlt => hbad ⟨v, hv, hlt⟩
  have hok : ∀ j ∈ (List.range 11).take i, ∃ v, fmtpField (fmtpNumbers line) j (fieldBounds.getD j 0) = .ok v := by
    intro j hj
    rw [List.take_range, List.mem_range] at hj
    obtain ⟨v, hv⟩ := hfits j (by omega)
    exact ⟨v, fmtpField_eq_ok_iff.2 hv⟩
  rw [ofFmtp_eq, if_pos hcount,
    mapM_eq_error (l := List.range 11) (by simpa using hi) hok (by simpa only [List.getElem_range] using herr)]
  rfl

/-- A description written out in decimal, with or without a leading word, reads back as itself. -/
theorem ofFmtp_spaced {c : AlacConfig} {lead : Option String} {line : String} (hlead : ∀ w ∈ lead, Text.IsWord w)
    (h : Text.Spaced (lead.toList ++ c.fields.map Nat.repr) line) : ofFmtp line = .ok c := by
  have hwords : Text.splitWhitespace line = lead.toList ++ c.fields.map Nat.repr := by
    refine Text.splitWhitespace_of_spaced (fun w hw => ?_) h
    rcases List.mem_append.1 hw with hw | hw
    · exact hlead w (Option.mem_toList.1 hw)
    · obtain ⟨n, -, rfl⟩ := List.mem_map.1 hw
      exact Text.isWord_repr n
  have hlen : (lead.toList ++ c.fields.map Nat.repr).length = lead.toList.length + 11 := by
    simp [fields]
  have hcount : (Text.splitWhitespace line).length = 11 ∨ (Text.splitWhitespace line).length = 12 := by
    rw [hwords, hlen]
    cases lead <;> simp
  have hnumbers : fmtpNumbers line = c.fields.map Nat.repr := by
    rw [fmtpNumbers, hwords, hlen, Nat.add_sub_cancel, List.drop_left]
  refine ofFmtp_eq_ok_iff.2 ⟨hcount, ?_⟩
  rw [hnumbers, List.forall₂_map_left_iff]
  exact List.forall₂_same.2 fun n _ => Text.isNumeral_repr n

example : ofFmtp "96 352 0 16 40 10 14 2 255 0 0 44100" = .ok (create 352 44100) := by rfl

/-- An `fmtp` line is read exactly by its grammar. It is accepted as `c` exactly when it splits at
white space into eleven or twelve words whose last eleven are numerals of the fields of `c`, in
order; a refusal gives the word count when that is wrong, and otherwise the index among the
eleven and the text of the first word that is no number fitting its field. So the fields of
every description, written in decimal apart by any white space and with or without a leading
word, read back as that description. -/
theorem ofFmtp_reads_its_grammar :
    (∀ line c, ofFmtp line = .ok c ↔
      ((Text.splitWhitespace line).length = 11 ∨ (Text.splitWhitespace line).length = 12) ∧
        List.Forall₂ Text.IsNumeral (fmtpNumbers line) c.fields) ∧
    (∀ line, (Text.splitWhitespace line).length ≠ 11 → (Text.splitWhitespace line).length ≠ 12 →
      ofFmtp line = .error (.invalidFmtp ("expected 11 or 12 fields, got " ++
        toString (Text.splitWhitespace line).length))) ∧
    (∀ line i, ((Text.splitWhitespace line).length = 11 ∨ (Text.splitWhitespace line).length = 12) → i < 11 →
      (∀ j < i, Fits ((fmtpNumbers line).getD j "") j) → ¬ Fits ((fmtpNumbers line).getD i "") i →
      ofFmtp line = .error (.invalidFmtp ("bad field " ++ toString i ++ ": " ++ (fmtpNumbers line).getD i ""))) ∧
    (∀ c (lead : Option String) line, (∀ w ∈ lead, Text.IsWord w) →
      Text.Spaced (lead.toList ++ c.fields.map Nat.repr) line → ofFmtp line = .ok c) :=
  ⟨fun _ _ => ofFmtp_eq_ok_iff, fun _ => ofFmtp_count_error, fun _ _ => ofFmtp_field_error,
    fun _ _ _ => ofFmtp_spaced⟩

/-- A line of two words is refused by its count, and a line whose first number is a word by
that word. -/
theorem ofFmtp_refuses_by_grammar :
    ofFmtp "96 352" = .error (.invalidFmtp "expected 11 or 12 fields, got 2") ∧
      ofFmtp "96 x 0 16 40 10 14 2 255 0 0 44100" = .error (.invalidFmtp "bad field 0: x") := by
  have hword : ¬ Fits "x" 0 := by
    rintro ⟨v, hv⟩
    cases Text.parseUnsigned_eq_some_iff.2 hv
  have hcount := ofFmtp_reads_its_grammar.2.1 "96 352" (by decide) (by decide)
  have hfield := ofFmtp_reads_its_grammar.2.2.1 "96 x 0 16 40 10 14 2 255 0 0 44100" 0 (.inr (by decide))
    (by decide) (fun j hj => absurd hj (Nat.not_lt_zero j)) hword
  exact ⟨hcount, hfield⟩

end AlacConfig

end Playout
