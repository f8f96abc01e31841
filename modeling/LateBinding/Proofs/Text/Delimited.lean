import LateBinding.Value.Display
import Mathlib.Data.List.Forall2

/-! # Texts in front of delimiters

Behind a literal form stands a comma, a blank, a closing bracket, or nothing. In front of such a
rest a word can be told from all others, and so can lists of texts between brackets whose items can.
-/

namespace LateBinding.Delimited

def isDelimiter (c : Char) : Bool := c == ',' || c == ' ' || c == ']' || c == '\x7d'

/-- What may stand behind a literal form. -/
def Closes (r : List Char) : Prop := ∀ c ∈ r.head?, isDelimiter c = true

/-- Read in front of whatever may stand behind them, the two texts agree only if `P` holds. -/
def AgreeOnlyIf (P : Prop) (a b : List Char) : Prop :=
  ∀ r s, Closes r → Closes s → a ++ r = b ++ s → P ∧ r = s

variable {P Q : Prop} {a b c d r s : List Char} {x : Char}

theorem closes_nil : Closes [] := by simp [Closes]

theorem closes_cons (hx : isDelimiter x = true) (r : List Char) : Closes (x :: r) := by
  simpa [Closes] using hx

namespace AgreeOnlyIf

theorem imp (h : AgreeOnlyIf P a b) (hpq : P → Q) : AgreeOnlyIf Q a b :=
  fun r s hr hs he => (h r s hr hs he).imp_left hpq

theorem of_eq (h : AgreeOnlyIf P a b) (he : a = b) : P :=
  (h [] [] closes_nil closes_nil (by rw [he])).1

theorem cons (h : AgreeOnlyIf P a b) (x : Char) : AgreeOnlyIf P (x :: a) (x :: b) := by
  intro r s hr hs he
  exact h r s hr hs (List.cons.inj he).2

theorem word (ha : ∀ x ∈ a, isDelimiter x = false) (hb : ∀ x ∈ b, isDelimiter x = false) :
    AgreeOnlyIf (a = b) a b := by
  intro r s hr hs he
  induction a generalizing b with
  | nil =>
    cases b with
    | nil => exact ⟨rfl, he⟩
    | cons y b =>
      have hy : isDelimiter y = true := hr y (by simp [show r = y :: (b ++ s) from he])
      rw [hb y List.mem_cons_self] at hy
      cases hy
  | cons x a ih =>
    cases b with
    | nil =>
      have hx : isDelimiter x = true := hs x (by simp [show s = x :: (a ++ r) from he.symm])
      rw [ha x List.mem_cons_self] at hx
      cases hx
    | cons y b =>
      obtain ⟨rfl, htail⟩ := List.cons.inj he
      obtain ⟨rfl, hrs⟩ := ih (fun z hz => ha z (List.mem_cons_of_mem _ hz))
        (fun z hz => hb z (List.mem_cons_of_mem _ hz)) htail
      exact ⟨rfl, hrs⟩

theorem arrow (hk : AgreeOnlyIf P a b) (hv : AgreeOnlyIf Q c d) :
    AgreeOnlyIf (P ∧ Q) (a ++ ' ' :: '=' :: '>' :: ' ' :: c)
      (b ++ ' ' :: '=' :: '>' :: ' ' :: d) := by
  intro r s hr hs he
  simp only [List.append_assoc, List.cons_append] at he
  obtain ⟨hp, hrest⟩ := hk _ _ (closes_cons rfl _) (closes_cons rfl _) he
  simp only [List.cons.injEq, true_and] at hrest
  obtain ⟨hq, hrs⟩ := hv r s hr hs hrest
  exact ⟨⟨hp, hq⟩, hrs⟩

end AgreeOnlyIf

def commaChars : List (List Char) → List Char
  | [] => []
  | a :: as => a ++ as.flatMap fun b => ',' :: ' ' :: b

theorem toList_commaList (parts : List String) :
    (Heap.commaList parts).toList = commaChars (parts.map String.toList) := by
  induction parts with
  | nil => rfl
  | cons p ps ih =>
    cases ps with
    | nil => simp [Heap.commaList, commaChars]
    | cons q ps =>
      rw [Heap.commaList, String.toList_append, String.toList_append, ih]
      · simp [commaChars]
      · simp

def Opens (a : List Char) : Prop := ∃ x t, a = x :: t ∧ isDelimiter x = false

section List

universe u
variable {α : Type u} {R : α → α → Prop} {f : α → List Char} {as bs : List α} {close : Char}

theorem forall₂_of_followers (hclose : isDelimiter close = true) (hcomma : close ≠ ',')
    (hf : ∀ a ∈ as, ∀ b ∈ bs, AgreeOnlyIf (R a b) (f a) (f b))
    (he : (as.flatMap fun a => ',' :: ' ' :: f a) ++ close :: r =
      (bs.flatMap fun b => ',' :: ' ' :: f b) ++ close :: s) :
    List.Forall₂ R as bs ∧ r = s := by
  have hrest : ∀ (cs : List α) (t : List Char),
      Closes ((cs.flatMap fun c => ',' :: ' ' :: f c) ++ close :: t) := by
    intro cs t
    cases cs with
    | nil => exact closes_cons hclose t
    | cons c cs => exact closes_cons rfl _
  induction as generalizing bs with
  | nil =>
    cases bs with
    | nil => exact ⟨.nil, (List.cons.inj he).2⟩
    | cons b bs => exact absurd (List.cons.inj he).1 hcomma
  | cons a as ih =>
    cases bs with
    | nil => exact absurd (List.cons.inj he).1.symm hcomma
    | cons b bs =>
      simp only [List.flatMap_cons, List.append_assoc, List.cons_append, List.cons.injEq,
        true_and] at he
      obtain ⟨hab, he⟩ :=
        hf a List.mem_cons_self b List.mem_cons_self _ _ (hrest as r) (hrest bs s) he
      obtain ⟨hitems, hrs⟩ := ih (fun x hx y hy => hf x (List.mem_cons_of_mem _ hx) y
        (List.mem_cons_of_mem _ hy)) he
      exact ⟨.cons hab hitems, hrs⟩

/-- Items between brackets, as many on either side. -/
theorem AgreeOnlyIf.items (hclose : isDelimiter close = true) (hcomma : close ≠ ',')
    (ha : ∀ a ∈ as, Opens (f a)) (hb : ∀ b ∈ bs, Opens (f b))
    (hf : ∀ a ∈ as, ∀ b ∈ bs, AgreeOnlyIf (R a b) (f a) (f b)) :
    AgreeOnlyIf (List.Forall₂ R as bs) (commaChars (as.map f) ++ [close])
      (commaChars (bs.map f) ++ [close]) := by
  have hopen : ∀ {a : List Char}, Opens a → ∀ t u, a ++ t ≠ close :: u := by
    rintro _ ⟨x, t, rfl, hx⟩ t u he
    rw [(List.cons.inj he).1, hclose] at hx
    cases hx
  intro r s hr hs he
  simp only [List.append_assoc, List.singleton_append] at he
  cases as with
  | nil =>
    cases bs with
    | nil => exact ⟨.nil, (List.cons.inj he).2⟩
    | cons b bs =>
      simp only [List.map_cons, commaChars, List.append_assoc] at he
      exact absurd he.symm (hopen (hb b List.mem_cons_self) _ _)
  | cons a as =>
    cases bs with
    | nil =>
      simp only [List.map_cons, commaChars, List.append_assoc] at he
      exact absurd he (hopen (ha a List.mem_cons_self) _ _)
    | cons b bs =>
      -- with a separator in front, the first items are like all others
      refine forall₂_of_followers hclose hcomma hf ?_
      simpa [commaChars, List.flatMap_map] using he

end List

end LateBinding.Delimited
