import LateBinding.Proofs.Text.Delimited
import LateBinding.Proofs.Text.Quoted
import LateBinding.Symbol.Display
import Mathlib.Data.List.TakeDrop

/-! # Reading symbols back

A bare name has none of the characters that end it, except for the two operators made of brackets,
which nothing else begins like. A quoted name ends with its quotation mark. So symbols can be told
apart wherever a value may stand.
-/

namespace LateBinding.Symbol

open Delimited

variable {cs ds r : List Char} {c : Char} {s t : Symbol}

def isPlain (c : Char) : Bool := !isDelimiter c && c != '"' && c != '['

theorem isPlain_of_isWordPart (h : isWordPart c = true) : isPlain c = true := by
  rw [← Bool.not_eq_false]
  intro hp
  simp only [isPlain, isDelimiter, Bool.and_eq_false_iff, Bool.not_eq_false', Bool.or_eq_true,
    beq_iff_eq, bne_eq_false_iff_eq] at hp
  rcases hp with ((((rfl | rfl) | rfl) | rfl) | rfl) | rfl <;> revert h <;> decide

def sigils : List (List Char) := [[], ['@'], ['@', '@'], ['$']]

def marks : List (List Char) := [[], ['?'], ['!'], ['=']]

theorem exists_sigil (cs : List Char) : ∃ sigil ∈ sigils, cs = sigil ++ dropSigil cs := by
  unfold dropSigil
  split
  · exact ⟨['@', '@'], by decide, rfl⟩
  · exact ⟨['@'], by decide, rfl⟩
  · exact ⟨['$'], by decide, rfl⟩
  · exact ⟨[], by decide, rfl⟩

theorem isMark_iff : isMark c = true ↔ [c] ∈ marks := by
  simp [isMark, marks, or_assoc]

theorem exists_mark (cs : List Char) : ∃ mark ∈ marks, cs = dropMark cs ++ mark := by
  unfold dropMark
  split
  · next hmark =>
    obtain ⟨d, hlast, hd⟩ := (Option.any_eq_true _ _).mp hmark
    obtain ⟨front, rfl⟩ := List.getLast?_eq_some_iff.mp hlast
    exact ⟨[d], isMark_iff.mp hd, by rw [List.dropLast_concat]⟩
  · exact ⟨[], by decide, (List.append_nil cs).symm⟩

theorem mem_dropSigil (h : c ∈ cs) : isPlain c = true ∨ c ∈ dropSigil cs := by
  have hplain : ∀ sigil ∈ sigils, sigil.all isPlain = true := by decide
  obtain ⟨sigil, hs, hcs⟩ := exists_sigil cs
  rw [hcs] at h
  exact (List.mem_append.mp h).imp_left (List.all_eq_true.mp (hplain sigil hs) c)

theorem mem_dropMark (h : c ∈ cs) : isPlain c = true ∨ c ∈ dropMark cs := by
  have hplain : ∀ mark ∈ marks, mark.all isPlain = true := by decide
  obtain ⟨mark, hm, hcs⟩ := exists_mark cs
  rw [hcs] at h
  exact (List.mem_append.mp h).symm.imp_left (List.all_eq_true.mp (hplain mark hm) c)

theorem isPlain_of_isWord (hw : isWord cs = true) (h : c ∈ cs) : isPlain c = true := by
  cases cs with
  | nil => cases h
  | cons d ds =>
    simp only [isWord, isWordStart, Bool.and_eq_true, List.all_eq_true] at hw
    refine isPlain_of_isWordPart ?_
    rcases List.mem_cons.mp h with rfl | h
    · rw [isWordPart]
      rcases Bool.or_eq_true _ _ ▸ hw.1 with hl | hl <;> simp [hl]
    · exact hw.2 c h

theorem isPlain_of_isIdentifier (hi : isIdentifier cs = true) (h : c ∈ cs) : isPlain c = true := by
  rcases mem_dropSigil h with hp | h
  · exact hp
  · rcases mem_dropMark h with hp | h
    · exact hp
    · exact isPlain_of_isWord hi h

theorem isPlain_of_isSpecialGlobal (hg : isSpecialGlobal cs = true) (h : c ∈ cs) :
    isPlain c = true := by
  unfold isSpecialGlobal at hg
  split at hg
  · next d =>
    simp only [Bool.or_eq_true, beq_iff_eq] at hg
    rcases List.mem_cons.mp h with rfl | h
    · rfl
    · obtain rfl := List.mem_singleton.mp h
      rcases hg with ((hd | rfl) | rfl) | rfl
      · exact isPlain_of_isWordPart (by simp [isWordPart, hd])
      · rfl
      · rfl
      · rfl
  · cases hg

theorem bareSafe_cases (hb : isBareSafe cs = true) :
    cs = ['[', ']'] ∨ cs = ['[', ']', '='] ∨ ∀ c ∈ cs, isPlain c = true := by
  simp only [isBareSafe, Bool.or_eq_true] at hb
  rcases hb with (hg | hi) | ho
  · exact .inr (.inr fun _ => isPlain_of_isSpecialGlobal hg)
  · exact .inr (.inr fun _ => isPlain_of_isIdentifier hi)
  · have hall : ∀ op ∈ bareOperators, op.toList = ['[', ']'] ∨ op.toList = ['[', ']', '='] ∨
        op.toList.all isPlain = true := by decide
    obtain ⟨op, hop, heq⟩ := List.any_eq_true.mp ho
    rw [← beq_iff_eq.mp heq]
    exact (hall op hop).imp_right (Or.imp_right List.all_eq_true.mp)

def readBare : List Char → List Char × List Char
  | '[' :: ']' :: '=' :: r => (['[', ']', '='], r)
  | '[' :: ']' :: r => (['[', ']'], r)
  | cs => cs.span isPlain

theorem readBare_append (hb : isBareSafe cs = true) (hr : Closes r) :
    readBare (cs ++ r) = (cs, r) := by
  rcases bareSafe_cases hb with rfl | rfl | hplain
  · have hne : ∀ t, r ≠ '=' :: t := by
      rintro t rfl
      exact absurd (hr '=' rfl) (by decide)
    cases r with
    | nil => rfl
    | cons d r =>
      rw [List.cons_append, List.cons_append, List.nil_append, readBare]
      rintro t he
      exact hne t he
  · rfl
  · have hspan : (cs ++ r).span isPlain = (cs, r) := by
      rw [List.span_eq_takeWhile_dropWhile, List.takeWhile_append_of_pos hplain,
        List.dropWhile_append_of_pos hplain]
      cases r with
      | nil => simp
      | cons d r =>
        have hd : isPlain d = false := by simp [isPlain, show isDelimiter d = true from hr d rfl]
        simp [hd]
    have hne : ∀ t, cs ++ r ≠ '[' :: ']' :: t := by
      intro t he
      cases cs with
      | nil => cases hb
      | cons d ds => cases (List.cons.inj he).1 ▸ hplain d List.mem_cons_self
    rw [← hspan]
    unfold readBare
    split
    · next t he => exact absurd he (hne _)
    · next t he => exact absurd he (hne _)
    · rfl

/-- A global shows its dollar sign bare whatever follows; only the usual ones can be read back. -/
def IsReadable (s : Symbol) : Prop :=
  s.name.toList.head? = some '$' → isBareSafe s.name.toList = true

instance (s : Symbol) : Decidable s.IsReadable := inferInstanceAs (Decidable (_ → _))

theorem IsReadable.isBareSafe (hs : s.IsReadable) (hq : s.needsQuotes = false) :
    Symbol.isBareSafe s.name.toList = true := by
  unfold needsQuotes nameNeedsQuotes at hq
  rcases Bool.and_eq_false_iff.mp hq with hbare | hglobal
  · simpa using (Bool.or_eq_false_iff.mp hbare).1
  · refine hs ?_
    unfold isGlobal at hglobal
    split at hglobal
    · next heq => rw [heq]; rfl
    · cases hglobal

theorem inspect_congr (hst : s.name = t.name) : s.inspect = t.inspect := by
  rw [inspect, inspect, needsQuotes, needsQuotes, hst]

theorem toList_inspect (s : Symbol) :
    s.inspect.toList =
      ':' :: (if s.needsQuotes then Quoted.quoteChars s.name.toList else s.name.toList) := by
  unfold inspect quote
  split <;> simp

theorem append_ne_quoteChars (hb : isBareSafe cs = true) (r s : List Char) :
    cs ++ r ≠ Quoted.quoteChars ds ++ s := by
  intro he
  cases cs with
  | nil => cases hb
  | cons c cs =>
    obtain rfl : c = '"' := (List.cons.inj he).1
    rcases bareSafe_cases hb with h | h | h
    · cases h
    · cases h
    · cases h '"' List.mem_cons_self

theorem agreeOnlyIf_inspect (hs : s.IsReadable) (ht : t.IsReadable) :
    AgreeOnlyIf (s.name = t.name) s.inspect.toList t.inspect.toList := by
  rw [toList_inspect, toList_inspect]
  refine AgreeOnlyIf.cons ?_ ':'
  intro r r' hr hr' he
  rw [← String.toList_inj]
  cases hsq : s.needsQuotes <;> cases htq : t.needsQuotes <;>
    simp only [hsq, htq, if_true, if_false, Bool.false_eq_true] at he
  case true.true => exact Quoted.quoteChars_append_inj he
  case false.true => exact absurd he (append_ne_quoteChars (hs.isBareSafe hsq) _ _)
  case true.false => exact absurd he.symm (append_ne_quoteChars (ht.isBareSafe htq) _ _)
  case false.false =>
    have hread := readBare_append (hs.isBareSafe hsq) hr
    rw [he, readBare_append (ht.isBareSafe htq) hr', Prod.mk.injEq] at hread
    exact ⟨hread.1.symm, hread.2.symm⟩

end LateBinding.Symbol
