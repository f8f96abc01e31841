import LateBinding.Config.Document
import LateBinding.Proofs.Value.Display
import Mathlib.Data.List.TakeWhile
import Mathlib.Tactic.IntervalCases

/-! # Documents are read back

A setting with a bare name is written on a line of its own, and read from this line again whatever
its value is. The settings of a written document are thus the ones that it was written for, and a
configuration is the one that it was.
-/

namespace LateBinding.Config

namespace Document

variable {c : Char} {cs name l r current : List Char} {n v : ℕ} {scalar : Scalar}
  {setting : String × Scalar} {settings : List (String × Scalar)} {document : String}
  {config : Config}

theorem digit?_of_isDigit (h : c.isDigit = true) :
    Numeral.digit? 10 c = some (c.toNat - '0'.toNat) := by
  have hle : c.toNat ≤ 57 := by
    simp only [Char.isDigit, Bool.and_eq_true, decide_eq_true_eq] at h
    exact h.2
  have hlt : c.toNat - 48 < 10 := by omega
  simp [Numeral.digit?, h, hlt]

theorem ne_of_isDigit {d : Char} (h : c.isDigit = true) (hd : d.isDigit = false) : c ≠ d := by
  rintro rfl
  simp [h] at hd

theorem digits?_of_isDigit (h : ∀ c ∈ cs, c.isDigit = true) (hne : cs ≠ []) :
    digits? 10 v cs = some (Nat.ofDigitChars 10 cs v) := by
  induction cs generalizing v with
  | nil => exact absurd rfl hne
  | cons c cs ih =>
    obtain ⟨hc, hcs⟩ := List.forall_mem_cons.mp h
    have hscore : c ≠ '_' := ne_of_isDigit hc (by decide)
    -- one digit alone is a case of its own, since a separator may not end a number
    cases cs with
    | nil => simp [digits?, digit?_of_isDigit hc, Nat.ofDigitChars]
    | cons d cs =>
      have hnext : d ≠ '_' := ne_of_isDigit (hcs d List.mem_cons_self) (by decide)
      rw [Nat.ofDigitChars_cons, ← ih hcs (by simp)]
      simp [digits?, hnext, digit?_of_isDigit hc]

theorem head?_toDigits_ne (h : 0 < n) : (Nat.toDigits 10 n).head? ≠ some '0' := by
  induction n using Nat.strong_induction_on with
  | _ n ih =>
    by_cases hlt : n < 10
    · rw [Nat.toDigits_of_lt_base hlt]
      interval_cases n <;> decide
    · rw [Nat.toDigits_of_base_le (by decide) (by omega),
        List.head?_append_of_ne_nil _ Nat.toDigits_ne_nil]
      exact ih (n / 10) (by omega) (by omega)

theorem isDigit_of_mem_toDigits (c : Char) (h : c ∈ Nat.toDigits 10 n) : c.isDigit = true :=
  Nat.isDigit_of_mem_toDigits (by decide) (by decide) h

theorem decimal?_toDigits (n : ℕ) : decimal? (Nat.toDigits 10 n) = some n := by
  rcases n.eq_zero_or_pos with rfl | hpos
  · rfl
  · have hfront := head?_toDigits_ne hpos
    unfold decimal?
    split
    · next h => simp [h] at hfront
    · next h => simp [h] at hfront
    · rw [digits?_of_isDigit isDigit_of_mem_toDigits Nat.toDigits_ne_nil,
        Nat.ofDigitChars_ten_toDigits]

theorem integer?_of_isDigit (h : ∀ c ∈ cs, c.isDigit = true) :
    integer? cs = (decimal? cs).map Int.ofNat := by
  unfold integer?
  split <;> first | rfl | simp at h

theorem integer?_toString (i : ℤ) : integer? (toString i).toList = some i := by
  rw [Int.toString_eq_repr, Int.repr_eq_if]
  split_ifs with hsign
  · rw [Nat.toList_repr, integer?_of_isDigit isDigit_of_mem_toDigits, decimal?_toDigits]
    simp [hsign]
  · simp [integer?, Nat.toList_repr, decimal?_toDigits]
    omega

def Scalar.chars : Scalar → List Char
  | .integer i => (toString i).toList
  | .boolean b => (boolText b).toList

def Scalar.Fits : Scalar → Prop
  | .integer i => IsWord i
  | .boolean _ => True

theorem isBareKey_of_isDigit (h : c.isDigit = true) : isBareKey c = true := by
  simp [isBareKey, Char.isAlphanum, h]

theorem isBareKey_of_mem_chars (h : c ∈ scalar.chars) : isBareKey c = true := by
  cases scalar with
  | integer i =>
    rcases Heap.mem_toString_int h with hdigit | rfl
    · exact isBareKey_of_isDigit hdigit
    · decide
  | boolean b =>
    have hall : (boolText b).toList.all isBareKey = true := by cases b <;> decide
    exact List.all_eq_true.mp hall c h

theorem scalar?_chars (h : scalar.Fits) : scalar? scalar.chars = some scalar := by
  cases scalar with
  | integer i =>
    have hne (word : String) (c : Char) (hc : c ∈ word.toList) (hdigit : c.isDigit = false)
        (hsign : c ≠ '-') : (toString i).toList ≠ word.toList := by
      intro heq
      rcases Heap.mem_toString_int (heq ▸ hc) with hd | rfl
      · simp [hd] at hdigit
      · exact hsign rfl
    have hword : IsWord i := h
    rw [scalar?, Scalar.chars, if_neg (hne "true" 't' (by decide) rfl (by decide)),
      if_neg (hne "false" 'f' (by decide) rfl (by decide)), integer?_toString]
    simp [hword]
  | boolean b => cases b <;> decide

/-- Bare characters come after the marks of the format, and before anything outside of ASCII. -/
theorem toNat_of_isBareKey (h : isBareKey c = true) : 0x2d ≤ c.toNat ∧ c.toNat < 0x80 := by
  have hkinds :
      (((decide (65 ≤ c.val ∧ c.val ≤ 90) || (decide (97 ≤ c.val) && decide (c.val ≤ 122))) ||
      (decide (48 ≤ c.val) && decide (c.val ≤ 57))) || c == '_') || c == '-' := h
  simp only [Bool.or_eq_true, Bool.and_eq_true, decide_eq_true_eq, beq_iff_eq,
    UInt32.le_iff_toNat_le, Char.toNat_val] at hkinds
  rcases hkinds with (((hkind | hkind) | hkind) | rfl) | rfl
  · simp at hkind; omega
  · simp at hkind; omega
  · simp at hkind; omega
  · decide
  · decide

theorem ne_of_isBareKey {d : Char} (h : isBareKey c = true) (hd : d.toNat < 0x2d) : c ≠ d := by
  rintro rfl
  exact (toNat_of_isBareKey h).1.not_gt hd

theorem isBlank_of_isBareKey (h : isBareKey c = true) : isBlank c = false := by
  simp [isBlank, ne_of_isBareKey h (d := ' ') (by decide),
    ne_of_isBareKey h (d := '\t') (by decide)]

theorem endsValue_of_isBareKey (h : isBareKey c = true) : endsValue c = false := by
  simp [endsValue, isBlank_of_isBareKey h, ne_of_isBareKey h (d := '#') (by decide)]

theorem ne_break_of_isBareKey (h : isBareKey c = true) : c ≠ '\n' ∧ c ≠ '\r' :=
  ⟨ne_of_isBareKey h (by decide), ne_of_isBareKey h (by decide)⟩

theorem lines_append (h : ∀ c ∈ l, c ≠ '\n' ∧ c ≠ '\r') :
    lines current (l ++ '\n' :: r) = (current.reverse ++ l) :: lines [] r := by
  induction l generalizing current with
  | nil => simp [lines]
  | cons c l ih =>
    obtain ⟨⟨hfeed, hreturn⟩, hl⟩ := List.forall_mem_cons.mp h
    simp [lines, hreturn, ih hl]

theorem key?_bare (h : ∀ c ∈ name, isBareKey c = true) (hne : name ≠ []) :
    key? (name ++ ' ' :: r) = some (name, ' ' :: r) := by
  have htake : (name ++ ' ' :: r).takeWhile isBareKey = name := by
    rw [List.takeWhile_append_of_pos h]
    simp [isBareKey]
  obtain ⟨c, cs, rfl⟩ := List.exists_cons_of_ne_nil hne
  have hc := h c List.mem_cons_self
  rw [List.cons_append] at htake ⊢
  unfold key?
  split
  · next heq => cases heq; cases hc
  · next heq => cases heq; cases hc
  · simp [htake]

/-- A setting that has a written form: a bare name, and a value of the format. -/
structure Plain (setting : String × Scalar) : Prop where
  bare : ∀ c ∈ setting.1.toList, isBareKey c = true
  named : setting.1.toList ≠ []
  fits : setting.2.Fits

theorem Plain.of_all (name : String) (hbare : name.toList.all isBareKey = true)
    (hne : name.toList ≠ []) (h : scalar.Fits) : Plain (name, scalar) :=
  ⟨List.all_eq_true.mp hbare, hne, h⟩

def settingLine (setting : String × Scalar) : List Char :=
  setting.1.toList ++ ' ' :: '=' :: ' ' :: setting.2.chars

theorem Plain.ne_break (h : Plain setting) (hc : c ∈ settingLine setting) :
    c ≠ '\n' ∧ c ≠ '\r' := by
  simp only [settingLine, List.mem_append, List.mem_cons] at hc
  rcases hc with hc | rfl | rfl | rfl | hc
  · exact ne_break_of_isBareKey (h.bare c hc)
  · decide
  · decide
  · decide
  · exact ne_break_of_isBareKey (isBareKey_of_mem_chars hc)

theorem skipBlank_chars (scalar : Scalar) : skipBlank scalar.chars = scalar.chars := by
  unfold skipBlank
  cases hchars : scalar.chars with
  | nil => rfl
  | cons c cs =>
    have hc : c ∈ scalar.chars := hchars ▸ List.mem_cons_self
    simp [isBlank_of_isBareKey (isBareKey_of_mem_chars hc)]

theorem setting?_settingLine (h : Plain setting) :
    setting? (settingLine setting) = some setting := by
  have hall : setting.2.chars.takeWhile (! endsValue ·) = setting.2.chars := by
    rw [List.takeWhile_eq_self_iff]
    intro c hc
    simp [endsValue_of_isBareKey (isBareKey_of_mem_chars hc)]
  have hequals : skipBlank (' ' :: '=' :: ' ' :: setting.2.chars) = '=' :: ' ' ::
      setting.2.chars := rfl
  have hvalue : skipBlank (' ' :: setting.2.chars) = setting.2.chars := skipBlank_chars setting.2
  have hend : atEnd [] = true := rfl
  simp [setting?, settingLine, key?_bare h.bare h.named, hequals, hvalue, hall,
    scalar?_chars h.fits, hend]

/-- A line that was written for a setting is read as that setting. -/
theorem line?_settingLine (h : Plain setting) :
    line? (settingLine setting) = some (some setting) := by
  obtain ⟨c, cs, hname⟩ := List.exists_cons_of_ne_nil h.named
  have hc : isBareKey c = true := h.bare c (hname ▸ List.mem_cons_self)
  have hskip : skipBlank (settingLine setting) = settingLine setting := by
    simp [settingLine, hname, skipBlank, isBlank_of_isBareKey hc]
  have hcontent : atEnd (settingLine setting) = false := by
    unfold atEnd
    rw [hskip, settingLine, hname]
    split
    · next heq => cases heq
    · next heq => cases heq; cases hc
    · rfl
  rw [line?, hcontent, hskip, setting?_settingLine h]
  rfl

def written (settings : List (String × Scalar)) : List Char :=
  settings.flatMap fun setting => settingLine setting ++ ['\n']

theorem lines_written (h : ∀ setting ∈ settings, Plain setting) :
    lines [] (written settings) = settings.map settingLine ++ [[]] := by
  induction settings with
  | nil => rfl
  | cons setting settings ih =>
    obtain ⟨hplain, hrest⟩ := List.forall_mem_cons.mp h
    have hsplit : written (setting :: settings) = settingLine setting ++ '\n' ::
        written settings := by
      simp [written]
    rw [hsplit, lines_append fun _ => hplain.ne_break, ih hrest]
    rfl

theorem mapM_line? (h : ∀ setting ∈ settings, Plain setting) :
    (settings.map settingLine ++ [[]]).mapM line? = some (settings.map some ++ [none]) := by
  induction settings with
  | nil => rfl
  | cons setting settings ih =>
    obtain ⟨hplain, hrest⟩ := List.forall_mem_cons.mp h
    simp [line?_settingLine hplain, ih hrest]

theorem toNat_of_written (h : ∀ setting ∈ settings, Plain setting)
    (hw : written settings = c :: r) : c.toNat < 0x80 := by
  cases settings with
  | nil => cases hw
  | cons setting settings =>
    have hplain := h setting List.mem_cons_self
    obtain ⟨d, ds, hname⟩ := List.exists_cons_of_ne_nil hplain.named
    obtain rfl : d = c := by simpa [written, settingLine, hname] using congrArg List.head? hw
    exact (toNat_of_isBareKey (hplain.bare d (hname ▸ List.mem_cons_self))).2

theorem settings?_written (h : ∀ setting ∈ settings, Plain setting) :
    settings? (String.ofList (written settings)) = some settings := by
  have hread : ((lines [] (written settings)).mapM line?).map (·.filterMap id) = some settings := by
    rw [lines_written h, mapM_line? h]
    simp
  rw [settings?, String.toList_ofList]
  cases hw : written settings with
  | nil => rwa [hw] at hread
  | cons c r =>
    have hmark : c.toNat ≠ 0xfeff := by have := toNat_of_written h hw; omega
    rw [hw] at hread
    simp only [if_neg hmark]
    exact hread

def settingsOf (config : Config) : List (String × Scalar) :=
  [("symbol_capacity", .integer config.symbolCapacity),
   ("preintern_known_symbols", .boolean config.preinternKnownSymbols),
   ("track_interner_stats", .boolean config.trackInternerStats)]

theorem plain_of_mem_settingsOf (hc : config.symbolCapacity < wordBound)
    (h : setting ∈ settingsOf config) : Plain setting := by
  unfold wordBound at hc
  simp only [settingsOf, List.mem_cons, List.not_mem_nil, or_false] at h
  rcases h with rfl | rfl | rfl
  · exact .of_all "symbol_capacity" (by decide) (by decide) ⟨by unfold wordBound; omega,
      by unfold wordBound; omega⟩
  · exact .of_all "preintern_known_symbols" (by decide) (by decide) trivial
  · exact .of_all "track_interner_stats" (by decide) (by decide) trivial

theorem write?_of_lt (h : config.symbolCapacity < wordBound) :
    write? config = some (String.ofList (written (settingsOf config))) := by
  rw [write?, if_pos h, Option.some_inj, ← String.toList_inj]
  simp [written, settingsOf, settingLine, Scalar.chars, Int.repr_eq_if, Nat.toList_repr]

theorem write?_eq_none_iff : write? config = none ↔ wordBound ≤ config.symbolCapacity := by
  simp [write?]

theorem lt_of_write? (h : write? config = some document) : config.symbolCapacity < wordBound := by
  rw [← not_le, ← write?_eq_none_iff, h]
  simp

theorem foldlM_settingsOf (config : Config) :
    (settingsOf config).foldlM Draft.add? ⟨none, none, none⟩ =
      some ⟨some config.symbolCapacity, some config.preinternKnownSymbols,
        some config.trackInternerStats⟩ := by
  simp [settingsOf, Draft.add?]

/-- What is written for a configuration is read as this configuration. -/
theorem read?_of_write? (h : write? config = some document) : read? document = some config := by
  have hc := lt_of_write? h
  rw [write?_of_lt hc, Option.some_inj] at h
  rw [read?, ← h, settings?_written fun _ => plain_of_mem_settingsOf hc, Option.bind_some,
    foldlM_settingsOf]
  rfl

end Document

theorem ofText_eq_ok_iff {text : String} {config : Config} :
    ofText text = .ok config ↔ Document.read? text = some config ∧ 0 < config.symbolCapacity := by
  unfold ofText
  cases Document.read? text with
  | none => simp
  | some found =>
    simp only [validate, Option.some_inj]
    split_ifs with hzero
    · refine iff_of_false (by simp) ?_
      rintro ⟨rfl, hpos⟩
      exact hpos.ne' hzero
    · rw [Except.ok.injEq]
      refine ⟨?_, And.left⟩
      rintro rfl
      exact ⟨rfl, Nat.pos_of_ne_zero hzero⟩

theorem ofText_of_write? {config : Config} {document : String}
    (h : Document.write? config = some document) : ofText document = config.validate := by
  rw [ofText, Document.read?_of_write? h]

end LateBinding.Config
