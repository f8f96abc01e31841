import LateBinding.Text.Casing
import Mathlib.Data.List.Forall2
import Mathlib.Order.Nat

/-! # Case of ASCII letters

Over the ASCII letters alone, each character is mapped to one, and only letters change, to the other
case at most. On a text of ASCII characters this is what the mappings of Unicode do as well: there
none of them gives several characters, and the sigma whose form depends on its place is not an ASCII
character.
-/

namespace LateBinding

namespace Unicode

variable {c : Char} {expansions : List (ℕ × List ℕ)} {s : Shift} {shifts : List Shift}

/-- Only the first run of a table counts for a character that comes before all others. -/
theorem mapCase_of_lt (hexpansions : ∀ e ∈ expansions, c.toNat < e.1)
    (hshifts : ∀ r ∈ shifts, c.toNat < r.run.first) :
    mapCase expansions (s :: shifts) c = mapCase [] [s] c := by
  have hlookup : expansions.lookup c.toNat = none :=
    List.lookup_eq_none_iff.mpr fun e he => bne_iff_ne.mpr (hexpansions e he).ne
  have hfind : shifts.find? (·.run.contains c.toNat) = none := by
    rw [List.find?_eq_none]
    intro r hr
    simp [Run.contains, Nat.not_le.mpr (hshifts r hr)]
  have hshifted : shifted? (s :: shifts) c.toNat = shifted? [s] c.toNat := by
    unfold shifted?
    rw [List.find?_cons, List.find?_cons, hfind, List.find?_nil]
  unfold mapCase
  rw [hlookup, hshifted, List.lookup_nil]

end Unicode

namespace Casing

variable {c d : Char} {cs : List Char} {text : String}

def mappings : List (Casing → String → String) := [upcase, downcase, swapcase, capitalize]

/-- A letter stands for itself in either case, and any other character for itself. -/
def SameButCase (c d : Char) : Prop := d.toLower = c.toLower ∧ (c.isAlpha = false → d = c)

def swapLetter (c : Char) : Char := if c.isLower then c.toUpper else c.toLower

instance : Decidable (SameButCase c d) := inferInstanceAs (Decidable (_ ∧ _))

/-- Only ASCII characters have a case: what holds of each of them, and of the characters that are
their own capitals and small letters, holds of all. -/
theorem ascii_cases {P : Char → Prop} (hascii : ∀ v < 0x80, P (.ofNat v))
    (hother : ∀ c, 0x80 ≤ c.toNat → c.toLower = c → c.toUpper = c → c.isLower = false →
      c.isUpper = false → P c)
    (c : Char) : P c := by
  by_cases hc : c.toNat < 0x80
  · have hchecked := hascii c.toNat hc
    rwa [Char.ofNat_toNat] at hchecked
  · have hlower : ¬ (97 ≤ c.val ∧ c.val ≤ 122) := by
      rw [UInt32.le_iff_toNat_le, UInt32.le_iff_toNat_le]
      change ¬ (97 ≤ c.toNat ∧ c.toNat ≤ 122)
      omega
    have hupper : ¬ (65 ≤ c.val ∧ c.val ≤ 90) := by
      rw [UInt32.le_iff_toNat_le, UInt32.le_iff_toNat_le]
      change ¬ (65 ≤ c.toNat ∧ c.toNat ≤ 90)
      omega
    exact hother c (Nat.le_of_not_lt hc) (dif_neg hupper) (dif_neg hlower)
      ((Bool.decide_and _ _).symm.trans (decide_eq_false hlower)) (decide_eq_false hupper)

theorem sameButCase_toUpper : ∀ c, SameButCase c c.toUpper := by
  apply ascii_cases
  · decide +kernel
  · intro c _ hlower hupper _ _
    simp [SameButCase, hupper]

theorem sameButCase_toLower : ∀ c, SameButCase c c.toLower := by
  apply ascii_cases
  · decide +kernel
  · intro c _ hlower _ _ _
    simp [SameButCase, hlower]

theorem sameButCase_swapLetter (c : Char) : SameButCase c (swapLetter c) := by
  unfold swapLetter
  split
  · exact sameButCase_toUpper c
  · exact sameButCase_toLower c

theorem swapLetter_toUpper : ∀ c : Char, swapLetter c.toUpper = c.toLower := by
  apply ascii_cases
  · decide +kernel
  · intro c _ hlower hupper hsmall _
    simp [swapLetter, hlower, hupper, hsmall]

theorem swapLetter_swapLetter : ∀ c, swapLetter (swapLetter c) = c := by
  apply ascii_cases
  · decide +kernel
  · intro c _ hlower _ hsmall _
    simp [swapLetter, hlower, hsmall]

theorem toUpper_toLower : ∀ c : Char, c.toLower.toUpper = c.toUpper := by
  apply ascii_cases
  · decide +kernel
  · intro c _ hlower _ _ _
    rw [hlower]

theorem isLower_toUpper : ∀ c : Char, c.toUpper.isLower = false := by
  apply ascii_cases
  · decide +kernel
  · intro c _ _ hupper hsmall _
    rw [hupper, hsmall]

theorem isUpper_toLower : ∀ c : Char, c.toLower.isUpper = false := by
  apply ascii_cases
  · decide +kernel
  · intro c _ hlower _ _ hcapital
    rw [hlower, hcapital]

theorem downcaseChars_ascii (cs : List Char) : ascii.downcaseChars cs = cs.map Char.toLower := by
  rw [List.map_eq_flatMap]
  rfl

theorem toList_upcase_ascii (text : String) :
    (ascii.upcase text).toList = text.toList.map Char.toUpper := by
  rw [upcase, String.toList_ofList, List.map_eq_flatMap]
  rfl

theorem toList_downcase_ascii (text : String) :
    (ascii.downcase text).toList = text.toList.map Char.toLower := by
  rw [downcase, String.toList_ofList, downcaseChars_ascii]

theorem toList_swapcase_ascii (text : String) :
    (ascii.swapcase text).toList = text.toList.map swapLetter := by
  have hswap : ascii.swapChar = fun c => [swapLetter c] := by
    funext c
    simp only [swapChar, swapLetter]
    split <;> rfl
  rw [swapcase, String.toList_ofList, swapcaseChars, hswap, List.map_eq_flatMap]

theorem forall₂_map {f : Char → Char} (hf : ∀ c, SameButCase c (f c)) (cs : List Char) :
    List.Forall₂ SameButCase cs (cs.map f) := by
  rw [List.forall₂_map_right_iff, List.forall₂_same]
  exact fun c _ => hf c

theorem sameButCase_capitalizeChars (cs : List Char) :
    List.Forall₂ SameButCase cs (ascii.capitalizeChars cs) := by
  cases cs with
  | nil => exact .nil
  | cons c cs =>
    rw [capitalizeChars, downcaseChars_ascii]
    exact .cons (sameButCase_toUpper c) (forall₂_map sameButCase_toLower cs)

theorem sameButCase_of_mem :
    ∀ map ∈ mappings, List.Forall₂ SameButCase text.toList (map ascii text).toList := by
  simp only [mappings, List.forall_mem_cons]
  refine ⟨?_, ?_, ?_, ?_, by simp⟩
  · rw [toList_upcase_ascii]
    exact forall₂_map sameButCase_toUpper _
  · rw [toList_downcase_ascii]
    exact forall₂_map sameButCase_toLower _
  · rw [toList_swapcase_ascii]
    exact forall₂_map sameButCase_swapLetter _
  · rw [capitalize, String.toList_ofList]
    exact sameButCase_capitalizeChars _

/-- Below 0x80 the tables of Unicode have the ASCII letters and no more. -/
theorem full_of_ascii (hc : c.toNat < 0x80) :
    full.upper c = ascii.upper c ∧ full.lower c = ascii.lower c ∧
    full.swapChar c = ascii.swapChar c := by
  have hfirst : ∀ v < 0x80, Unicode.mapCase [] [⟨⟨0x61, 0x7a, 1⟩, -32⟩] (.ofNat v) =
      [(Char.ofNat v).toUpper] ∧
      Unicode.mapCase [] [⟨⟨0x41, 0x5a, 1⟩, 32⟩] (.ofNat v) = [(Char.ofNat v).toLower] ∧
      Unicode.isLowercase (.ofNat v) = (Char.ofNat v).isLower ∧
      Unicode.isUppercase (.ofNat v) = (Char.ofNat v).isUpper ∧
      ((Char.ofNat v).isUpper = false → (Char.ofNat v).toLower = .ofNat v) := by
    decide +kernel
  obtain ⟨hmapUpper, hmapLower, hlowercase, huppercase, hsmall⟩ := hfirst c.toNat hc
  rw [Char.ofNat_toNat] at hmapUpper hmapLower hlowercase huppercase hsmall
  have hupperAbove : (∀ e ∈ Unicode.upperExpansions, 0x80 ≤ e.1) ∧
      ∀ r ∈ Unicode.upperShifts.tail, 0x80 ≤ r.run.first := by decide +kernel
  have hlowerAbove : (∀ e ∈ Unicode.lowerExpansions, 0x80 ≤ e.1) ∧
      ∀ r ∈ Unicode.lowerShifts.tail, 0x80 ≤ r.run.first := by decide +kernel
  have hupper : Unicode.toUpper c = [c.toUpper] :=
    (Unicode.mapCase_of_lt (fun e he => hc.trans_le (hupperAbove.1 e he))
      fun r hr => hc.trans_le (hupperAbove.2 r hr)).trans hmapUpper
  have hlower : Unicode.toLower c = [c.toLower] :=
    (Unicode.mapCase_of_lt (fun e he => hc.trans_le (hlowerAbove.1 e he))
      fun r hr => hc.trans_le (hlowerAbove.2 r hr)).trans hmapLower
  refine ⟨hupper, hlower, ?_⟩
  rw [swapChar, swapChar, hlowercase, huppercase, hupper, hlower]
  cases hcapital : c.isUpper with
  | true => simp
  | false => simp [hsmall hcapital]

theorem lowerFrom_of_ascii (hcs : ∀ c ∈ cs, c.toNat < 0x80) (before : List Char) :
    lowerFrom before cs = ascii.downcaseChars cs := by
  induction cs generalizing before with
  | nil => rfl
  | cons c cs ih =>
    obtain ⟨hc, hcs⟩ := List.forall_mem_cons.mp hcs
    have hsigma : c ≠ 'Σ' := by
      rintro rfl
      exact absurd hc (by decide)
    have hlower : Unicode.toLower c = ascii.lower c := (full_of_ascii hc).2.1
    rw [lowerFrom, if_neg hsigma, hlower, ih hcs]
    rfl

theorem downcaseChars_full (hcs : ∀ c ∈ cs, c.toNat < 0x80) :
    full.downcaseChars cs = ascii.downcaseChars cs :=
  lowerFrom_of_ascii hcs []

theorem capitalizeChars_full (hcs : ∀ c ∈ cs, c.toNat < 0x80) :
    full.capitalizeChars cs = ascii.capitalizeChars cs := by
  cases cs with
  | nil => rfl
  | cons c cs =>
    obtain ⟨hc, hcs⟩ := List.forall_mem_cons.mp hcs
    rw [capitalizeChars, capitalizeChars, (full_of_ascii hc).1, downcaseChars_full hcs]

theorem ascii_eq_full (htext : ∀ c ∈ text.toList, c.toNat < 0x80) :
    ∀ map ∈ mappings, map ascii text = map full text := by
  have hflatMap {f g : Char → List Char} (h : ∀ c, c.toNat < 0x80 → f c = g c) :
      text.toList.flatMap f = text.toList.flatMap g := List.flatMap_congr fun c hc =>
        h c (htext c hc)
  simp only [mappings, List.forall_mem_cons]
  refine ⟨?_, ?_, ?_, ?_, by simp⟩
  · rw [upcase, upcase, upcaseChars, upcaseChars, hflatMap fun c hc => (full_of_ascii hc).1]
  · rw [downcase, downcase, downcaseChars_full htext]
  · rw [swapcase, swapcase, swapcaseChars, swapcaseChars,
      hflatMap fun c hc => (full_of_ascii hc).2.2]
  · rw [capitalize, capitalize, capitalizeChars_full htext]

example : upcase ascii "straße" = "STRAßE" ∧ upcase full "straße" = "STRASSE" := by decide +kernel

/-- What holds of the mappings over the ASCII letters alone. -/
structure MapsAscii (text : String) : Prop where
  /-- Each gives as many characters, and in the place of each character that is no letter the same
  one. -/
  keeps : ∀ map ∈ mappings, List.Forall₂ SameButCase text.toList (map ascii text).toList
  upper : ∀ c ∈ (upcase ascii text).toList, c.isLower = false
  lower : ∀ c ∈ (downcase ascii text).toList, c.isUpper = false
  swapcase_swapcase : swapcase ascii (swapcase ascii text) = text
  upcase_downcase : upcase ascii (downcase ascii text) = upcase ascii text
  downcase_upcase : downcase ascii (upcase ascii text) = downcase ascii text
  swapcase_upcase : swapcase ascii (upcase ascii text) = downcase ascii text
  full : (∀ c ∈ text.toList, c.toNat < 0x80) → ∀ map ∈ mappings, map ascii text = map full text

theorem mapsAscii (text : String) : MapsAscii text where
  keeps := sameButCase_of_mem
  upper := by
    rw [toList_upcase_ascii, List.forall_mem_map]
    exact fun c _ => isLower_toUpper c
  lower := by
    rw [toList_downcase_ascii, List.forall_mem_map]
    exact fun c _ => isUpper_toLower c
  swapcase_swapcase := by
    have hswap : swapLetter ∘ swapLetter = id := funext swapLetter_swapLetter
    rw [← String.toList_inj, toList_swapcase_ascii, toList_swapcase_ascii, List.map_map, hswap,
      List.map_id]
  upcase_downcase := by
    have hupper : Char.toUpper ∘ Char.toLower = Char.toUpper := funext toUpper_toLower
    rw [← String.toList_inj, toList_upcase_ascii, toList_downcase_ascii, toList_upcase_ascii,
      List.map_map, hupper]
  downcase_upcase := by
    have hlower : Char.toLower ∘ Char.toUpper = Char.toLower := funext fun c =>
      (sameButCase_toUpper c).1
    rw [← String.toList_inj, toList_downcase_ascii, toList_upcase_ascii, toList_downcase_ascii,
      List.map_map, hlower]
  swapcase_upcase := by
    have hlower : swapLetter ∘ Char.toUpper = Char.toLower := funext swapLetter_toUpper
    rw [← String.toList_inj, toList_swapcase_ascii, toList_upcase_ascii, toList_downcase_ascii,
      List.map_map, hlower]
  full := ascii_eq_full

end Casing

end LateBinding
