import LateBinding.Proofs.Symbol.Display

/-! # The grammar of bare names

The recognizer of identifiers strips a sigil and a mark and looks at what is left. It accepts what
the grammar generates and nothing else: a word neither begins like a sigil nor ends like a mark, so
nothing can be stripped off it.
-/

namespace LateBinding.Symbol

variable {cs ds sigil word mark : List Char} {c d : Char} {s t : Symbol}

def StartsWord (c : Char) : Prop := 'a' ≤ c ∧ c ≤ 'z' ∨ c = '_'

def ContinuesWord (c : Char) : Prop := StartsWord c ∨ '0' ≤ c ∧ c ≤ '9'

instance : Decidable (StartsWord c) := inferInstanceAs (Decidable (_ ∨ _))

instance : Decidable (ContinuesWord c) := inferInstanceAs (Decidable (_ ∨ _))

inductive Word : List Char → Prop
  | cons {c : Char} {cs : List Char} : StartsWord c → (∀ d ∈ cs, ContinuesWord d) → Word (c :: cs)

/-- The names that can be read back bare. -/
inductive Bare : List Char → Prop
  | identifier {sigil word mark : List Char} : sigil ∈ sigils → Word word → mark ∈ marks →
      Bare (sigil ++ word ++ mark)
  | operator {op : String} : op ∈ bareOperators → Bare op.toList
  | global {c : Char} : '0' ≤ c ∧ c ≤ '9' ∨ c = '?' ∨ c = '!' ∨ c = '~' → Bare ['$', c]

theorem isDigit_iff : c.isDigit = true ↔ '0' ≤ c ∧ c ≤ '9' := by
  change (decide (c.val ≥ '0'.val) && decide (c.val ≤ '9'.val)) = true ↔ _
  simp [Char.le_def]

theorem isLower_iff : c.isLower = true ↔ 'a' ≤ c ∧ c ≤ 'z' := by
  change (decide ('a'.val ≤ c.val) && decide (c.val ≤ 'z'.val)) = true ↔ _
  simp [Char.le_def]

theorem isWordStart_iff : isWordStart c = true ↔ StartsWord c := by
  simp [isWordStart, StartsWord, isLower_iff]

theorem isWordPart_iff : isWordPart c = true ↔ ContinuesWord c := by
  rw [ContinuesWord, ← isWordStart_iff, ← isDigit_iff]
  simp only [isWordPart, isWordStart, Bool.or_eq_true]
  tauto

theorem isWord_iff : isWord cs = true ↔ Word cs := by
  constructor
  · intro h
    cases cs with
    | nil => cases h
    | cons c cs =>
      simp only [isWord, Bool.and_eq_true, List.all_eq_true, isWordStart_iff, isWordPart_iff] at h
      exact .cons h.1 h.2
  · rintro ⟨hc, hcs⟩
    simp only [isWord, Bool.and_eq_true, List.all_eq_true, isWordStart_iff, isWordPart_iff]
    exact ⟨hc, hcs⟩

theorem dropSigil_cons (hat : c ≠ '@') (hdollar : c ≠ '$') : dropSigil (c :: cs) = c :: cs := by
  unfold dropSigil
  split
  · next he => exact absurd (List.cons.inj he).1 hat
  · next he => exact absurd (List.cons.inj he).1 hat
  · next he => exact absurd (List.cons.inj he).1 hdollar
  · rfl

namespace Word

theorem continues (h : Word cs) : ∀ c ∈ cs, ContinuesWord c := by
  cases h with
  | cons hc hcs =>
    intro d hd
    rcases List.mem_cons.mp hd with rfl | hd
    · exact .inl hc
    · exact hcs d hd

theorem dropSigil_append (h : Word word) (hs : sigil ∈ sigils) (mark : List Char) :
    dropSigil (sigil ++ (word ++ mark)) = word ++ mark := by
  cases h with
  | @cons c cs hc _ =>
    have hat : c ≠ '@' := by rintro rfl; revert hc; decide
    have hdollar : c ≠ '$' := by rintro rfl; revert hc; decide
    have hword : dropSigil (c :: (cs ++ mark)) = c :: (cs ++ mark) := dropSigil_cons hat hdollar
    simp only [sigils, List.mem_cons, List.not_mem_nil, or_false] at hs
    rcases hs with rfl | rfl | rfl | rfl
    · exact hword
    · unfold dropSigil
      simp [hat]
    · rfl
    · rfl

theorem dropMark_append (h : Word word) (hm : mark ∈ marks) : dropMark (word ++ mark) = word := by
  obtain ⟨front, d, rfl⟩ : ∃ front d, word = front ++ [d] := by
    cases h
    exact ⟨_, _, (List.dropLast_append_getLast (List.cons_ne_nil _ _)).symm⟩
  have hd : isMark d = false := by
    have hcontinues := h.continues d (by simp)
    rw [Bool.eq_false_iff]
    intro hmark
    simp only [isMark, Bool.or_eq_true, beq_iff_eq] at hmark
    rcases hmark with (rfl | rfl) | rfl <;> revert hcontinues <;> decide
  cases mark with
  | nil => simp [dropMark, hd]
  | cons m rest =>
    obtain rfl : rest = [] := by
      simp only [marks, List.mem_cons, List.cons.injEq, List.not_mem_nil, or_false, reduceCtorEq,
        false_or] at hm
      rcases hm with h | h | h <;> exact h.2
    simp [dropMark, List.getLast?_append, isMark_iff.mpr hm]

end Word

theorem isIdentifier_iff :
    isIdentifier cs = true ↔
      ∃ sigil ∈ sigils, ∃ word, Word word ∧ ∃ mark ∈ marks, cs = sigil ++ word ++ mark := by
  constructor
  · intro h
    obtain ⟨sigil, hs, hcs⟩ := exists_sigil cs
    obtain ⟨mark, hm, hrest⟩ := exists_mark (dropSigil cs)
    refine ⟨sigil, hs, dropMark (dropSigil cs), isWord_iff.mp h, mark, hm, ?_⟩
    rw [List.append_assoc, ← hrest, ← hcs]
  · rintro ⟨sigil, hs, word, hw, mark, hm, rfl⟩
    rw [isIdentifier, List.append_assoc, hw.dropSigil_append hs, hw.dropMark_append hm]
    exact isWord_iff.mpr hw

theorem isSpecialGlobal_iff :
    isSpecialGlobal cs = true ↔
      ∃ c, ('0' ≤ c ∧ c ≤ '9' ∨ c = '?' ∨ c = '!' ∨ c = '~') ∧ cs = ['$', c] := by
  unfold isSpecialGlobal
  split
  · simp [isDigit_iff, or_assoc]
  · next hne =>
    simp only [Bool.false_eq_true, false_iff, not_exists, not_and]
    exact fun c _ => hne c

theorem isBareSafe_iff : isBareSafe cs = true ↔ Bare cs := by
  simp only [isBareSafe, Bool.or_eq_true, isSpecialGlobal_iff, isIdentifier_iff, List.any_eq_true,
    beq_iff_eq]
  constructor
  · rintro ((⟨c, hc, rfl⟩ | ⟨sigil, hs, word, hw, mark, hm, rfl⟩) | ⟨op, hop, rfl⟩)
    · exact .global hc
    · exact .identifier hs hw hm
    · exact .operator hop
  · rintro (⟨hs, hw, hm⟩ | hop | hc)
    · exact .inl (.inr ⟨_, hs, _, hw, _, hm, rfl⟩)
    · exact .inr ⟨_, hop, rfl⟩
    · exact .inl (.inl ⟨_, hc, rfl⟩)

theorem isGraphic_between {a z : Char} (ha : isGraphic a = true) (hz : isGraphic z = true)
    (hac : a ≤ c) (hcz : c ≤ z) : isGraphic c = true := by
  simp only [isGraphic, Bool.and_eq_true, decide_eq_true_eq] at ha hz ⊢
  exact ⟨Char.le_trans ha.1 hac, Char.le_trans hcz hz.2⟩

theorem isGraphic_of_continuesWord (h : ContinuesWord c) : isGraphic c = true := by
  rcases h with (⟨ha, hz⟩ | rfl) | ⟨h0, h9⟩
  · exact isGraphic_between rfl rfl ha hz
  · rfl
  · exact isGraphic_between rfl rfl h0 h9

/-- Bare names are graphic: asking for that besides changes nothing. -/
theorem Bare.isGraphic (h : Bare cs) : ∀ c ∈ cs, isGraphic c = true := by
  cases h with
  | @identifier sigil word mark hs hw hm =>
    have hsigils : ∀ sigil ∈ sigils, sigil.all Symbol.isGraphic = true := by decide
    have hmarks : ∀ mark ∈ marks, mark.all Symbol.isGraphic = true := by decide
    intro c hc
    rcases List.mem_append.mp hc with hc | hc
    · rcases List.mem_append.mp hc with hc | hc
      · exact List.all_eq_true.mp (hsigils _ hs) c hc
      · exact isGraphic_of_continuesWord (hw.continues c hc)
    · exact List.all_eq_true.mp (hmarks _ hm) c hc
  | operator hop =>
    have hall : ∀ op ∈ bareOperators, op.toList.all Symbol.isGraphic = true := by decide
    exact List.all_eq_true.mp (hall _ hop)
  | @global d hd =>
    have hgraphic : Symbol.isGraphic d = true := by
      rcases hd with ⟨h0, h9⟩ | rfl | rfl | rfl
      · exact isGraphic_between rfl rfl h0 h9
      · rfl
      · rfl
      · rfl
    intro c hc
    rcases List.mem_cons.mp hc with rfl | hc
    · rfl
    · rwa [List.mem_singleton.mp hc]

theorem needsQuotes_eq (s : Symbol) :
    s.needsQuotes = (!isBareSafe s.name.toList && !isGlobal s.name.toList) := by
  unfold needsQuotes nameNeedsQuotes
  cases hb : isBareSafe s.name.toList with
  | false => simp
  | true =>
    have hgraphic : s.name.toList.any (!isGraphic ·) = false := by
      simpa [List.any_eq_false] using (isBareSafe_iff.mp hb).isGraphic
    rw [hgraphic, Bool.or_false]

/-- A dollar sign takes one byte, so more bytes are more characters. -/
theorem isGlobal_iff (name : String) :
    isGlobal name.toList = true ↔ 1 < name.utf8ByteSize ∧ name.toList.head? = some '$' := by
  obtain ⟨cs, rfl⟩ : ∃ cs, name = String.ofList cs := ⟨name.toList, (String.ofList_toList).symm⟩
  rw [String.toList_ofList]
  rcases cs with _ | ⟨c, _ | ⟨d, cs⟩⟩
  · simp [isGlobal]
  · simp only [isGlobal, Bool.false_eq_true, List.head?_cons, Option.some.injEq, false_iff, not_and]
    rintro hbytes rfl
    exact absurd hbytes (by decide)
  · have hbytes : 1 < (String.ofList (c :: d :: cs)).utf8ByteSize := by
      have hc := c.utf8Size_pos
      have hd := d.utf8Size_pos
      simp only [String.ofList_cons, String.utf8ByteSize_append, String.utf8ByteSize_singleton]
      omega
    rw [List.head?_cons, Option.some.injEq, and_iff_right hbytes]
    by_cases hc : c = '$' <;> simp [isGlobal, hc]

theorem name_ne_quoteChars (hs : s.needsQuotes = false) (ds : List Char) :
    s.name.toList ≠ Quoted.quoteChars ds := by
  rw [needsQuotes_eq, Bool.and_eq_false_iff, Bool.not_eq_false', Bool.not_eq_false'] at hs
  rcases hs with hbare | hglobal
  · intro he
    exact append_ne_quoteChars hbare [] [] (congrArg (· ++ []) he)
  · intro he
    rw [he] at hglobal
    cases hglobal

theorem inspect_ne (hst : s.name ≠ t.name) : s.inspect ≠ t.inspect := by
  intro he
  rw [← String.toList_inj, toList_inspect, toList_inspect] at he
  have hrest := List.tail_eq_of_cons_eq he
  cases hs : s.needsQuotes <;> cases ht : t.needsQuotes <;>
    simp only [hs, ht, if_true, if_false, Bool.false_eq_true] at hrest
  case false.false => exact hst (String.toList_inj.mp hrest)
  case true.true =>
    exact hst (String.toList_inj.mp (Quoted.quoteChars_append_inj (congrArg (· ++ []) hrest)).1)
  case false.true => exact name_ne_quoteChars hs _ hrest
  case true.false => exact name_ne_quoteChars ht _ hrest.symm

/-- Just the names that are globals or in the grammar stand bare, whatever they are made of, and no
two names are shown alike. -/
theorem needsQuotes_exact :
    (∀ s : Symbol, s.needsQuotes = false ↔
      (1 < s.name.utf8ByteSize ∧ s.name.toList.head? = some '$') ∨ Bare s.name.toList) ∧
    (∀ s : Symbol, s.needsQuotes = (!isBareSafe s.name.toList && !isGlobal s.name.toList)) ∧
    ∀ s t : Symbol, s.name ≠ t.name → s.inspect ≠ t.inspect := by
  refine ⟨fun s => ?_, needsQuotes_eq, fun s t => inspect_ne⟩
  rw [needsQuotes_eq, Bool.and_eq_false_iff, Bool.not_eq_false', Bool.not_eq_false', isBareSafe_iff,
    isGlobal_iff, or_comm]

end LateBinding.Symbol
