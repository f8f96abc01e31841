import LateBinding.Proofs.Text.Quoted
import LateBinding.Unicode.Category
import Mathlib.Algebra.Ring.Parity
import Mathlib.Data.List.Induction

/-! # Quoted texts as literals

A character is escaped by an odd run of backslashes in front of it. Between the marks that enclose a
quoted text every quotation mark and every interpolation is escaped, and control characters are not
seen at all.
-/

namespace LateBinding.Quoted

variable {c d l : Char} {cs front back : List Char}

/-- The text that a literal stands for: it ends with the quotation mark that ends the reading. -/
def unquote? (literal : String) : Option String :=
  match literal.toList with
  | '"' :: rest =>
    match read? rest with
    | some (cs, []) => some (String.ofList cs)
    | _ => none
  | _ => none

theorem unquote?_quote (text : String) : unquote? (quote text) = some text := by
  simp [unquote?, quote, quoteChars, read?_escape]

def backslashes (cs : List Char) : Nat := (cs.reverse.takeWhile (· == '\\')).length

def Escapes (cs : List Char) : Prop := Odd (backslashes cs)

/-- A literal that is one quotation and nothing else. -/
structure Shielded (q : List Char) : Prop where
  enclosed : ∃ body, q = '"' :: (body ++ ['"'])
  ended : ∀ front, q = front ++ ['"'] → ¬ Escapes front
  quotation : ∀ front back, q = front ++ '"' :: back → front ≠ [] → back ≠ [] → Escapes front
  interpolation : ∀ front c back, q = front ++ '#' :: c :: back → c = '\x7b' ∨ c = '$' ∨ c = '@' →
    Escapes front
  control : ∀ c ∈ q, Unicode.inRuns Unicode.Category.control c = false

theorem backslashes_append_singleton :
    backslashes (cs ++ [c]) = if c = '\\' then backslashes cs + 1 else 0 := by
  unfold backslashes
  split <;> simp_all

/-- Whether a backslash has nothing to escape yet, told while reading from the front. -/
def isPending (cs : List Char) : Bool := cs.foldl (fun pending c => !pending && c == '\\') false

theorem isPending_iff : isPending cs = true ↔ Escapes cs := by
  induction cs using List.reverseRecOn with
  | nil => simp [isPending, Escapes, backslashes]
  | append_singleton cs c ih =>
    have hstep : isPending (cs ++ [c]) = (!isPending cs && c == '\\') := by simp [isPending]
    rw [hstep, Escapes, backslashes_append_singleton]
    by_cases hc : c = '\\'
    · rw [if_pos hc, Nat.odd_add_one, ← Escapes, ← ih]
      simp [hc]
    · simp [hc]

theorem isPending_escaped : isPending ('\\' :: l :: cs) = isPending cs := by simp [isPending]

theorem isPending_cons (hc : c ≠ '\\') : isPending (c :: cs) = isPending cs := by
  simp [isPending, beq_false_of_ne hc]

theorem isControl_eq_inRuns : isControl c = Unicode.inRuns Unicode.Category.control c := by
  rw [Bool.eq_iff_iff]
  simp only [isControl, Unicode.Category.control, Unicode.solid, List.map_cons, List.map_nil,
    Unicode.inRuns, Unicode.Run.contains, Nat.mod_one, beq_self_eq_true, Bool.and_true,
    Bool.or_false, Bool.or_eq_true, Bool.and_eq_true, decide_eq_true_eq]
  omega

/-- The characters that stand for themselves, a number sign only if it opens no interpolation. -/
def isPlain (c : Char) : Bool := c != '"' && c != '\\' && !isControl c

inductive Body : List Char → Prop
  | nil : Body []
  | escaped {l : Char} {cs : List Char} : isControl l = false → Body cs → Body ('\\' :: l :: cs)
  | plain {c : Char} {cs : List Char} : isPlain c = true →
    (c = '#' → opensInterpolation cs = false) →
      Body cs → Body (c :: cs)

theorem isPlain_hexDigit {n : Nat} (hn : n < 16) :
    isPlain (hexDigit n) = true ∧ hexDigit n ≠ '#' := by
  have hall : ∀ n < 16, isPlain (hexDigit n) = true ∧ hexDigit n ≠ '#' := by decide
  exact hall n hn

namespace Body

theorem hexDigit {n : Nat} (hn : n < 16) (h : Body cs) : Body (hexDigit n :: cs) :=
  plain (isPlain_hexDigit hn).1 (fun hc => absurd hc (isPlain_hexDigit hn).2) h

theorem escapeChar (hc : c ≠ '#') (h : Body cs) : Body (escapeChar c ++ cs) := by
  unfold Quoted.escapeChar
  split
  · next l hl =>
    refine escaped ?_ h
    unfold letter? at hl
    split at hl <;> cases hl <;> rfl
  · next hl =>
    split
    · refine escaped rfl ?_
      iterate 4 refine hexDigit (Nat.mod_lt _ (by decide)) ?_
      exact h
    · next hcontrol =>
      have hquote : c ≠ '"' := by rintro rfl; cases hl
      have hback : c ≠ '\\' := by rintro rfl; cases hl
      exact plain (by simp [isPlain, hquote, hback, hcontrol]) (fun he => absurd he hc) h

theorem isPending_eq (h : Body cs) : isPending cs = false := by
  induction h with
  | nil => rfl
  | escaped _ _ ih => rw [isPending_escaped, ih]
  | plain hc _ _ ih =>
    simp only [isPlain, Bool.and_eq_true, bne_iff_ne] at hc
    rw [isPending_cons hc.1.2, ih]

theorem isControl_eq (h : Body cs) : ∀ c ∈ cs, isControl c = false := by
  induction h with
  | nil => simp
  | escaped hl _ ih => simpa [hl, show isControl '\\' = false from rfl] using ih
  | plain hc _ _ ih =>
    simp only [isPlain, Bool.and_eq_true, Bool.not_eq_true'] at hc
    simpa [hc.2] using ih

/-- A character that would end the literal or open an interpolation waits behind a backslash. -/
theorem isPending_front (h : Body cs) (hcs : cs = front ++ c :: back)
    (hc : c = '"' ∨ c = '#' ∧ opensInterpolation back = true) : isPending front = true := by
  induction h generalizing front with
  | nil => simp at hcs
  | @escaped l cs _ _ ih =>
    -- it is the backslash, which means nothing, or the character that it escapes, or comes later
    rcases front with _ | ⟨a, _ | ⟨b, front⟩⟩
    · rcases hc with rfl | ⟨rfl, -⟩ <;> cases hcs
    · cases hcs
      rfl
    · obtain ⟨rfl, rfl, hrest⟩ : '\\' = a ∧ l = b ∧ cs = front ++ c :: back := by simpa using hcs
      rw [isPending_escaped]
      exact ih hrest
  | @plain d cs hd hopen _ ih =>
    simp only [isPlain, Bool.and_eq_true, bne_iff_ne] at hd
    rcases front with _ | ⟨a, front⟩
    · obtain ⟨rfl, rfl⟩ : d = c ∧ cs = back := by simpa using hcs
      rcases hc with hq | ⟨hn, ho⟩
      · exact absurd hq hd.1.1
      · exact absurd (hopen hn) (by simp [ho])
    · obtain ⟨rfl, hrest⟩ : d = a ∧ cs = front ++ c :: back := by simpa using hcs
      rw [isPending_cons hd.1.2]
      exact ih hrest

end Body

theorem opensInterpolation_escapeChar (hc : c ≠ '#') :
    opensInterpolation (escapeChar c ++ cs) = opensInterpolation (c :: cs) := by
  unfold escapeChar
  split
  · next l hl =>
    unfold letter? at hl
    split at hl <;> cases hl <;> rfl
  · split
    · next hcontrol =>
      have hne : ∀ d, isControl d = false → c ≠ d := by
        rintro d hd rfl
        simp [hd] at hcontrol
      simp [opensInterpolation, hne '\x7b' rfl, hne '$' rfl, hne '@' rfl]
    · rfl

/-- What follows a number sign opens an interpolation once it is escaped if it did so before. -/
theorem opensInterpolation_escape : opensInterpolation (escape cs) = opensInterpolation cs := by
  cases cs with
  | nil => rfl
  | cons c cs =>
    unfold escape
    split
    · next hc =>
      subst hc
      split <;> rfl
    · next hc => rw [opensInterpolation_escapeChar hc]; rfl

theorem body_escape (cs : List Char) : Body (escape cs) := by
  induction cs with
  | nil => exact .nil
  | cons c cs ih =>
    unfold escape
    split
    · split
      · exact .escaped rfl ih
      · next ho =>
        refine .plain rfl (fun _ => ?_) ih
        rw [opensInterpolation_escape]
        simpa using ho
    · next hc => exact ih.escapeChar hc

theorem opensInterpolation_append_mark :
    opensInterpolation (cs ++ ['"']) = opensInterpolation cs := by
  cases cs <;> rfl

theorem exists_between_marks (hq : '"' :: (cs ++ ['"']) = front ++ c :: back) (hfront : front ≠ [])
    (hback : back ≠ []) :
    ∃ front' back', front = '"' :: front' ∧ back = back' ++ ['"'] ∧ cs = front' ++ c :: back' := by
  obtain ⟨a, front, rfl⟩ := List.exists_cons_of_ne_nil hfront
  obtain ⟨back, z, rfl⟩ := (List.eq_nil_or_concat back).resolve_left hback
  obtain ⟨rfl, hrest⟩ : '"' = a ∧ cs ++ ['"'] = (front ++ c :: back) ++ [z] := by simpa using hq
  obtain ⟨hcs, hz⟩ := List.append_inj' hrest rfl
  exact ⟨front, back, rfl, by rw [List.concat_eq_append, ← hz], hcs⟩

namespace Body

theorem escapes_front (h : Body cs) (hq : '"' :: (cs ++ ['"']) = front ++ c :: back)
    (hfront : front ≠ []) (hback : back ≠ [])
    (hc : c = '"' ∨ c = '#' ∧ opensInterpolation back = true) : Escapes front := by
  obtain ⟨front, back, rfl, rfl, hcs⟩ := exists_between_marks hq hfront hback
  rw [opensInterpolation_append_mark] at hc
  rw [← isPending_iff, isPending_cons (by decide)]
  exact h.isPending_front hcs hc

theorem shielded (h : Body cs) : Shielded ('"' :: (cs ++ ['"'])) where
  enclosed := ⟨cs, rfl⟩
  ended front hq := by
    rw [← List.cons_append] at hq
    obtain rfl : '"' :: cs = front := List.append_inj_left' hq rfl
    rw [← isPending_iff, isPending_cons (by decide), h.isPending_eq]
    exact Bool.false_ne_true
  quotation front back hq hfront hback := h.escapes_front hq hfront hback (.inl rfl)
  interpolation front c back hq hc := by
    have hfront : front ≠ [] := by rintro rfl; cases hq
    refine h.escapes_front hq hfront (List.cons_ne_nil _ _) (.inr ⟨rfl, ?_⟩)
    simpa [opensInterpolation, or_assoc] using hc
  control c hc := by
    rw [← isControl_eq_inRuns]
    simp only [List.mem_cons, List.mem_append, List.not_mem_nil, or_false] at hc
    rcases hc with rfl | hc | rfl
    · rfl
    · exact h.isControl_eq c hc
    · rfl

end Body

/-- A quoted text can be read back, and nothing in it ends it early, opens an interpolation or is
not seen. -/
theorem quote_faithful :
    (∀ text, unquote? (quote text) = some text) ∧ Function.Injective quote ∧
      ∀ text, Shielded (quote text).toList := by
  refine ⟨unquote?_quote, fun text text' h => ?_, fun text => ?_⟩
  · have hread := unquote?_quote text
    rw [h, unquote?_quote, Option.some.injEq] at hread
    exact hread.symm
  · rw [quote, String.toList_ofList]
    exact (body_escape text.toList).shielded

end LateBinding.Quoted
