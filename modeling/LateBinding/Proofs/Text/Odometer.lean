import LateBinding.Proofs.Text.Alphanumeric
import Mathlib.Data.List.Infix
import Mathlib.Data.List.Induction

/-! # The successor as an odometer

The letters and digits that a carry runs through are the wheels of an odometer. The successor turns
it on by one. When all of its wheels have come to their ends, they are set back and one more is put
in front of them.
-/

namespace LateBinding.Successor

def marks (ks : List (Option Kind)) : List (Kind × ℕ) :=
  (ks.zipIdx.filterMap fun e => e.1.map (·, e.2)).reverse

/-- The second, which is the next one on the left, stands side by side with the first, or they are
not a letter and a digit. -/
def Linked (e f : Kind × ℕ) : Prop := f.2 + 1 = e.2 ∨ (e.1 = .digit ↔ f.1 = .digit)

instance (e f : Kind × ℕ) : Decidable (Linked e f) := inferInstanceAs (Decidable (_ ∨ _))

/-- Takes in one after the other as long as they are linked, the first of them to `e?`. -/
def chain : Option (Kind × ℕ) → List (Kind × ℕ) → List (Kind × ℕ)
  | _, [] => []
  | e?, f :: rest => if ∀ e ∈ e?, Linked e f then f :: chain (some f) rest else []

def wheelsAfter (e? : Option (Kind × ℕ)) (cs : List Char) : List ℕ :=
  (chain e? (marks (cs.map kind?))).map (·.2)

/-- The positions of the wheels, from right to left: the rightmost letter or digit and what is taken
in after it. -/
def wheels (cs : List Char) : List ℕ := wheelsAfter none cs

def charAt (cs : List Char) (i : ℕ) : Char := cs[i]?.getD ' '

def reading (cs : List Char) (ps : List ℕ) : ℕ := numeral (ps.map (charAt cs))

variable {c d : Char} {k l : Kind} {cs cs' : List Char} {ps : List ℕ} {e? : Option (Kind × ℕ)}
  {i n : ℕ}

theorem marks_concat (ks : List (Option Kind)) (k? : Option Kind) :
    marks (ks ++ [k?]) = (k?.map (·, ks.length)).toList ++ marks ks := by
  cases k? <;> simp [marks, List.zipIdx_append]

theorem mem_marks_iff {ks : List (Option Kind)} {e : Kind × ℕ} :
    e ∈ marks ks ↔ ks[e.2]? = some (some e.1) := by
  simp only [marks, List.mem_reverse, List.mem_filterMap, List.mem_zipIdx_iff_getElem?]
  constructor
  · rintro ⟨⟨k?, i⟩, hi, he⟩
    obtain ⟨k, rfl, rfl⟩ := Option.map_eq_some_iff.mp he
    exact hi
  · intro h
    exact ⟨(some e.1, e.2), h, rfl⟩

theorem lt_of_mem_marks {ks : List (Option Kind)} {e : Kind × ℕ} (h : e ∈ marks ks) :
    e.2 < ks.length :=
  (List.getElem?_eq_some_iff.mp (mem_marks_iff.mp h)).1

theorem marks_pairwise (ks : List (Option Kind)) : (marks ks).Pairwise fun e f => f.2 < e.2 := by
  induction ks using List.reverseRecOn with
  | nil => simp [marks]
  | append_singleton ks k? ih =>
    rw [marks_concat]
    cases k? with
    | none => exact ih
    | some k => exact .cons (fun e he => lt_of_mem_marks he) ih

theorem chain_sublist (e? : Option (Kind × ℕ)) (es : List (Kind × ℕ)) :
    (chain e? es).Sublist es := by
  induction es generalizing e? with
  | nil => exact .slnil
  | cons f rest ih =>
    unfold chain
    split_ifs
    · exact (ih _).cons_cons f
    · exact List.nil_sublist _

theorem exists_kind_of_mem (h : i ∈ wheelsAfter e? cs) :
    i < cs.length ∧ ∃ k, kind? (charAt cs i) = some k := by
  obtain ⟨e, he, rfl⟩ := List.mem_map.mp h
  have hkind := mem_marks_iff.mp ((chain_sublist _ _).mem he)
  rw [List.getElem?_map] at hkind
  obtain ⟨c, hc, hk⟩ := Option.map_eq_some_iff.mp hkind
  constructor
  · exact (List.getElem?_eq_some_iff.mp hc).1
  · exact ⟨e.1, by rw [charAt, hc]; exact hk⟩

theorem lt_of_mem_wheelsAfter (h : i ∈ wheelsAfter e? cs) : i < cs.length :=
  (exists_kind_of_mem h).1

theorem isSome_kind?_of_mem : ∀ c ∈ (wheels cs).map (charAt cs), (kind? c).isSome = true := by
  intro c hc
  obtain ⟨i, hi, rfl⟩ := List.mem_map.mp hc
  exact Option.isSome_iff_exists.mpr (exists_kind_of_mem hi).2

theorem wheelsAfter_skip (hc : kind? c = none) :
    wheelsAfter e? (cs ++ [c]) = wheelsAfter e? cs := by
  simp [wheelsAfter, marks_concat, hc]

theorem wheelsAfter_concat (hc : kind? c = some k) :
    wheelsAfter e? (cs ++ [c]) = if ∀ e ∈ e?, Linked e (k, cs.length)
      then cs.length :: wheelsAfter (some (k, cs.length)) cs else [] := by
  unfold wheelsAfter
  rw [List.map_append, List.map_singleton, hc, marks_concat, List.length_map]
  simp only [Option.map_some, Option.toList_some, List.singleton_append, chain]
  split_ifs <;> rfl

theorem le_of_getLast? {p : ℕ} (hp : (wheels cs).getLast? = some p) (hi : i ∈ wheels cs) :
    p ≤ i := by
  have hpairs : (wheels cs).Pairwise (· > ·) :=
    List.pairwise_map.mpr ((marks_pairwise _).sublist (chain_sublist _ _))
  obtain ⟨right, hright⟩ := List.getLast?_eq_some_iff.mp hp
  rw [hright, List.pairwise_append] at hpairs
  rw [hright, List.mem_append, List.mem_singleton] at hi
  rcases hi with hi | rfl
  · exact (hpairs.2.2 i hi p List.mem_cons_self).le
  · exact le_rfl

theorem wheels_ne_nil (h : ∃ c ∈ cs, isAlnum c = true) : wheels cs ≠ [] := by
  obtain ⟨c, hc, halnum⟩ := h
  rw [isAlnum_eq, Option.isSome_iff_exists] at halnum
  obtain ⟨k, hk⟩ := halnum
  obtain ⟨i, hi⟩ := List.mem_iff_getElem?.mp hc
  have hmem : (k, i) ∈ marks (cs.map kind?) := by
    rw [mem_marks_iff, List.getElem?_map, hi, Option.map_some, hk]
  unfold wheels wheelsAfter
  cases hmarks : marks (cs.map kind?) with
  | nil => simp [hmarks] at hmem
  | cons e rest => simp [chain]

theorem charAt_concat : charAt (cs ++ [c]) cs.length = c := by
  simp [charAt]

theorem charAt_append {suffix : List Char} (hi : i < cs.length) :
    charAt (cs ++ suffix) i = charAt cs i := by
  simp [charAt, List.getElem?_append_left hi]

theorem map_charAt_append {suffix : List Char} (h : ∀ i ∈ ps, i < cs.length) :
    ps.map (charAt (cs ++ suffix)) = ps.map (charAt cs) :=
  List.map_congr_left fun i hi => charAt_append (h i hi)

theorem getElem?_eq_charAt (hi : i < cs.length) : cs[i]? = some (charAt cs i) := by
  simp [charAt, hi]

structure Ticked (cs : List Char) (ps : List ℕ) (cs' : List Char) : Prop where
  length : cs'.length = cs.length
  elsewhere : ∀ i ∉ ps, cs'[i]? = cs[i]?
  chars : ps.map (charAt cs') = tick (ps.map (charAt cs))

theorem ticked_nil : Ticked cs [] cs := ⟨rfl, fun _ _ => rfl, rfl⟩

theorem Ticked.skip (h : Ticked cs ps cs') (hps : ∀ i ∈ ps, i < cs.length) (c : Char) :
    Ticked (cs ++ [c]) ps (cs' ++ [c]) where
  length := by simp [h.length]
  elsewhere := by
    intro i hi
    have hsame := h.elsewhere i hi
    have hlength := h.length
    grind
  chars := by
    rw [map_charAt_append hps, map_charAt_append (fun i hi => h.length ▸ hps i hi), h.chars]

theorem Ticked.carried (h : Ticked cs ps cs') (hps : ∀ i ∈ ps, i < cs.length)
    (hlast : isLast c = true) : Ticked (cs ++ [c]) (cs.length :: ps) (cs' ++ [reset c]) where
  length := by simp [h.length]
  elsewhere := by
    intro i hi
    have hsame := h.elsewhere i (fun hmem => hi (List.mem_cons_of_mem _ hmem))
    have hlength := h.length
    grind
  chars := by
    have hhead : charAt (cs' ++ [reset c]) cs.length = reset c := h.length ▸ charAt_concat
    simp only [List.map_cons, charAt_concat, tick, hlast, if_true]
    rw [map_charAt_append hps, map_charAt_append (fun i hi => h.length ▸ hps i hi), h.chars, hhead]

theorem ticked_stop (hps : ∀ i ∈ ps, i < cs.length) (hlast : isLast c = false) :
    Ticked (cs ++ [c]) (cs.length :: ps) (cs ++ [advance c]) where
  length := by simp
  elsewhere := by grind
  chars := by
    simp only [List.map_cons, charAt_concat, tick, hlast]
    rw [map_charAt_append hps, map_charAt_append hps]
    rfl

/-- What a carry makes of a text that is read from right to left: no wheel takes it, or the wheels
are turned on, and one more is put in front of them if all were at their ends. -/
inductive Rolled (cs : List Char) (ps : List ℕ) : Option (List Char) → Prop
  | stuck (h : ps = []) : Rolled cs ps none
  | turned {cs' : List Char} (h : ∃ i ∈ ps, isLast (charAt cs i) = false) (ht : Ticked cs ps cs') :
    Rolled cs ps (some cs'.reverse)
  | lengthened {cs' : List Char} {p : ℕ} (h : ∀ i ∈ ps, isLast (charAt cs i) = true)
    (hp : ps.getLast? = some p) (ht : Ticked cs ps cs') :
    Rolled cs ps (some (cs'.insertIdx p (carryOut (charAt cs p))).reverse)

theorem insertIdx_append {p : ℕ} (hp : p ≤ cs.length) (suffix : List Char) :
    (cs ++ suffix).insertIdx p c = cs.insertIdx p c ++ suffix := by
  induction cs generalizing p with
  | nil =>
    obtain rfl : p = 0 := by simpa using hp
    rfl
  | cons d r ih =>
    cases p with
    | zero => rfl
    | succ p => simpa using ih (by simpa using hp)

theorem Rolled.skip {r : Option (List Char)} (h : Rolled cs ps r) (hps : ∀ i ∈ ps, i < cs.length)
    (c : Char) : Rolled (cs ++ [c]) ps (r.map (c :: ·)) := by
  cases h with
  | stuck h => exact .stuck h
  | @turned cs' h ht =>
    obtain ⟨i, hi, hstop⟩ := h
    have hroll := Rolled.turned ⟨i, hi, by rwa [charAt_append (hps i hi)]⟩ (ht.skip hps c)
    simpa using hroll
  | @lengthened cs' p h hp ht =>
    have hlt := hps p (List.mem_of_getLast? hp)
    have hall : ∀ i ∈ ps, isLast (charAt (cs ++ [c]) i) = true := by
      intro i hi
      rw [charAt_append (hps i hi)]
      exact h i hi
    have hroll := Rolled.lengthened hall hp (ht.skip hps c)
    rw [charAt_append hlt, insertIdx_append (ht.length ▸ hlt.le)] at hroll
    simpa using hroll

theorem Rolled.carried {r : Option (List Char)} (h : Rolled cs ps r) (hps : ∀ i ∈ ps, i < cs.length)
    (hc : kind? c = some k) (hlast : isLast c = true) :
    Rolled (cs ++ [c]) (cs.length :: ps) (some (k.first :: r.getD (carryOut c :: cs.reverse))) := by
  have hreset := reset_eq hc
  cases h with
  | stuck h =>
    subst h
    have hp : [cs.length].getLast? = some cs.length := rfl
    have hroll := Rolled.lengthened (by simpa [charAt_concat]
      using hlast) hp (ticked_nil.carried hps hlast)
    rw [charAt_concat, insertIdx_append le_rfl, List.insertIdx_length_self, hreset] at hroll
    simpa using hroll
  | @turned cs' h ht =>
    obtain ⟨i, hi, hstop⟩ := h
    have hmem : ∃ i ∈ cs.length :: ps, isLast (charAt (cs ++ [c]) i) = false :=
      ⟨i, List.mem_cons_of_mem _ hi, by rwa [charAt_append (hps i hi)]⟩
    have hroll := Rolled.turned hmem (ht.carried hps hlast)
    rw [hreset] at hroll
    simpa using hroll
  | @lengthened cs' p h hp ht =>
    have hlt := hps p (List.mem_of_getLast? hp)
    have hall : ∀ i ∈ cs.length :: ps, isLast (charAt (cs ++ [c]) i) = true := by
      intro i hi
      rcases List.mem_cons.mp hi with rfl | hi
      · rwa [charAt_concat]
      · rw [charAt_append (hps i hi)]
        exact h i hi
    have hp' : (cs.length :: ps).getLast? = some p := by
      simp [List.getLast?_cons, hp]
    have hroll := Rolled.lengthened hall hp' (ht.carried hps hlast)
    rw [charAt_append hlt, insertIdx_append (ht.length ▸ hlt.le), hreset] at hroll
    simpa using hroll

/-- What a carry has passed when it comes to the first `n` characters of a text: no letter or digit,
or a wheel as the last one of them, side by side with these characters or apart from them. -/
inductive Passed : Option Char → Bool → Option (Kind × ℕ) → ℕ → Prop
  | start {apart : Bool} {n : ℕ} : Passed none apart none n
  | wheel {d : Char} {k : Kind} {i n : ℕ} {apart : Bool} (hd : kind? d = some k) (hi : n ≤ i)
    (hapart : apart = true ↔ n ≠ i) : Passed (some d) apart (some (k, i)) n

variable {last : Option Char} {apart : Bool}

theorem Passed.skip (h : Passed last apart e? (n + 1)) : Passed last true e? n := by
  cases h with
  | start => exact .start
  | wheel hd hi _ =>
    apply Passed.wheel hd (by omega)
    simp
    omega

theorem Passed.stops_iff (h : Passed last apart e? (n + 1)) (hc : kind? c = some k) :
    (apart && last.any (crosses · c)) = true ↔ ¬ ∀ e ∈ e?, Linked e (k, n) := by
  cases h with
  | start => simp
  | wheel hd _ hapart => simp [Linked, hapart, crosses_iff hd hc]

/-- A carry turns on the wheels that it comes to. The induction takes the characters off from the
right. -/
theorem rolled_carry (h : Passed last apart e? cs.length) :
    Rolled cs (wheelsAfter e? cs) (carry last apart cs.reverse) := by
  induction cs using List.reverseRecOn generalizing last apart e? with
  | nil => exact .stuck rfl
  | append_singleton cs c ih =>
    rw [List.length_append, List.length_singleton] at h
    rw [List.reverse_append, List.reverse_singleton, List.singleton_append, carry]
    cases hc : kind? c with
    | none =>
      have hstop : (apart && last.any (crosses · c)) = false := by
        simp [crosses_eq_false hc]
      rw [hstop, next?_eq_none hc, wheelsAfter_skip hc]
      exact (ih h.skip).skip (fun i hi => lt_of_mem_wheelsAfter hi) c
    | some k =>
      rw [wheelsAfter_concat hc]
      by_cases hlinked : ∀ e ∈ e?, Linked e (k, cs.length)
      · have hstop : ¬ (apart && last.any (crosses · c)) = true := by
          rw [h.stops_iff hc]
          exact not_not_intro hlinked
        rw [if_neg hstop, if_pos hlinked]
        cases hlast : isLast c with
        | false =>
          rw [next?_of_not_isLast hc hlast]
          have hmem : ∃ i ∈ cs.length :: wheelsAfter (some (k, cs.length)) cs,
              isLast (charAt (cs ++ [c]) i) = false :=
              ⟨cs.length, List.mem_cons_self, by rwa [charAt_concat]⟩
          have hroll :=
            Rolled.turned hmem (ticked_stop (fun i hi => lt_of_mem_wheelsAfter hi) hlast)
          simpa using hroll
        | true =>
          rw [next?_of_isLast hc hlast]
          have hpassed : Passed (some k.first) false (some (k, cs.length)) cs.length :=
            .wheel kind?_first le_rfl (by simp)
          have hroll := (ih hpassed).carried (fun i hi => lt_of_mem_wheelsAfter hi) hc hlast
          cases hr : carry (some k.first) false cs.reverse with
          | none => simpa [hr] using hroll
          | some r' => simpa [hr] using hroll
      · rw [if_pos ((h.stops_iff hc).mpr hlinked), if_neg hlinked]
        exact .stuck rfl

/-- The wheels show the next number, and everything else stays as it is. -/
structure TurnedOn (cs cs' : List Char) : Prop where
  length : cs'.length = cs.length
  elsewhere : ∀ i ∉ wheels cs, cs'[i]? = cs[i]?
  kinds : cs'.map kind? = cs.map kind?
  reading : reading cs' (wheels cs) = reading cs (wheels cs) + 1

/-- All wheels are set back, and one more is put in front of the leftmost one. -/
def Lengthened (cs cs' : List Char) : Prop :=
  ∃ p ∈ wheels cs, (∀ i ∈ wheels cs, p ≤ i) ∧ ∃ k, kind? (charAt cs p) = some k ∧
    cs' = (cs.mapIdx fun i c => if i ∈ wheels cs then reset c else c).insertIdx p k.front

theorem Ticked.turnedOn (h : Ticked cs (wheels cs) cs')
    (hstop : ∃ i ∈ wheels cs, isLast (charAt cs i) = false) : TurnedOn cs cs' where
  length := h.length
  elsewhere := h.elsewhere
  kinds := by
    have htick := map_kind?_tick (@isSome_kind?_of_mem cs)
    rw [← h.chars, List.map_map, List.map_map, List.map_inj_left] at htick
    apply List.ext_getElem?
    intro i
    rw [List.getElem?_map, List.getElem?_map]
    by_cases hi : i ∈ wheels cs
    · have hlt := lt_of_mem_wheelsAfter hi
      rw [getElem?_eq_charAt hlt, getElem?_eq_charAt (h.length ▸ hlt)]
      exact congrArg some (htick i hi)
    · rw [h.elsewhere i hi]
  reading := by
    unfold Successor.reading
    rw [h.chars]
    apply numeral_tick isSome_kind?_of_mem
    simpa using hstop

theorem Ticked.eq_mapIdx (h : Ticked cs (wheels cs) cs')
    (hlast : ∀ i ∈ wheels cs, isLast (charAt cs i) = true) :
    cs' = cs.mapIdx fun i c => if i ∈ wheels cs then reset c else c := by
  have htick : tick ((wheels cs).map (charAt cs)) = _ := tick_of_isLast (by simpa using hlast)
  rw [← h.chars, List.map_map, List.map_inj_left] at htick
  apply List.ext_getElem?
  intro i
  rw [List.getElem?_mapIdx]
  by_cases hi : i ∈ wheels cs
  · have hlt := lt_of_mem_wheelsAfter hi
    rw [getElem?_eq_charAt hlt, getElem?_eq_charAt (h.length ▸ hlt), htick i hi]
    simp [hi]
  · rw [h.elsewhere i hi]
    simp [hi]

theorem succChars_cases (h : ∃ c ∈ cs, isAlnum c = true) :
    (∃ i ∈ wheels cs, isLast (charAt cs i) = false) ∧ TurnedOn cs (succChars cs) ∨
      (∀ i ∈ wheels cs, isLast (charAt cs i) = true) ∧ Lengthened cs (succChars cs) := by
  have hne : cs ≠ [] := by
    rintro rfl
    simp at h
  have hroll : Rolled cs (wheels cs) (carry none false cs.reverse) := rolled_carry .start
  unfold succChars
  rw [if_neg hne, if_pos (List.any_eq_true.mpr h)]
  generalize carry none false cs.reverse = r at hroll
  cases hroll with
  | stuck hnil => exact absurd hnil (wheels_ne_nil h)
  | @turned cs' hstop ht =>
    left
    rw [Option.getD_some, List.reverse_reverse]
    exact ⟨hstop, ht.turnedOn hstop⟩
  | @lengthened cs' p hlast hp ht =>
    right
    rw [Option.getD_some, List.reverse_reverse]
    have hmem := List.mem_of_getLast? hp
    obtain ⟨-, k, hk⟩ := exists_kind_of_mem hmem
    refine ⟨hlast, p, hmem, fun i hi => le_of_getLast? hp hi, k, hk, ?_⟩
    rw [carryOut_eq hk, ht.eq_mapIdx hlast]

theorem toList_succ (text : String) : (succ text).toList = succChars text.toList :=
  String.toList_ofList

/-- The successor of a text with letters or digits turns its wheels on, or lengthens it when all of
them are at their ends. -/
theorem succ_odometer (text : String) (h : ∃ c ∈ text.toList, isAlnum c = true) :
    ((∃ i ∈ wheels text.toList, isLast (charAt text.toList i) = false) →
      TurnedOn text.toList (succ text).toList) ∧
    ((∀ i ∈ wheels text.toList, isLast (charAt text.toList i) = true) →
      Lengthened text.toList (succ text).toList) := by
  rw [toList_succ]
  rcases succChars_cases h with ⟨⟨i, hi, hstop⟩, hturned⟩ | ⟨hlast, hlengthened⟩
  · constructor
    · intro _
      exact hturned
    · intro hlast
      simp [hlast i hi] at hstop
  · constructor
    · rintro ⟨i, hi, hstop⟩
      simp [hlast i hi] at hstop
    · intro _
      exact hlengthened

/-- The full stop parts a digit from the letters, which the hyphen does not part. -/
theorem succ_odometer_parted :
    (∃ c ∈ "9.Zz-z!".toList, isAlnum c = true) ∧ wheels "9.Zz-z!".toList = [5, 3, 2] ∧
      succ "9.Zz-z!" = "9.AAa-a!" ∧ Lengthened "9.Zz-z!".toList (succ "9.Zz-z!").toList := by
  have halnum : ∃ c ∈ "9.Zz-z!".toList, isAlnum c = true := ⟨'z', by decide +kernel, by decide⟩
  exact ⟨halnum, by decide +kernel, by decide +kernel,
    (succ_odometer "9.Zz-z!" halnum).2 (by decide +kernel)⟩

end LateBinding.Successor
