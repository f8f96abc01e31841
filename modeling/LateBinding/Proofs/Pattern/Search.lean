import LateBinding.Pattern.Search
import Mathlib.Data.Int.Order.Basic
import Mathlib.Data.List.Basic
import Mathlib.Data.Nat.Basic

/-! # What a search saves

The code of a pattern is left at its end only. On the way through it positions never go back, and
whatever opens a group closes it again. The groups of a match therefore end where they start or
later, and the whole match always takes part.
-/

namespace LateBinding

namespace Search

variable {program : Array Instr} {text : Array Char} {t u : Thread} {saves new new' : Saves}
  {lo mid hi : ℕ}

/-- From the thread on, the end of the program is reached in `n` steps, with these positions
saved. -/
inductive Ends (program : Array Instr) (text : Array Char) : ℕ → Thread → Saves → Prop
  | accept {t : Thread} (h : next? program text t = none) : Ends program text 0 t t.saves
  | step {n : ℕ} {t u : Thread} {ts : List Thread} {saves : Saves} (h : next? program text t =
    some ts) (hu : u ∈ ts) (he : Ends program text n u saves) : Ends program text (n + 1) t saves

theorem ends_of_explore {fuel : ℕ} {stack : List Thread} {tried : Array Bool}
    (h : (explore program text fuel stack tried).1 = some saves) :
    ∃ t ∈ stack, ∃ n, Ends program text n t saves := by
  induction fuel generalizing stack tried with
  | zero => simp [explore] at h
  | succ fuel ih =>
    cases stack with
    | nil => simp [explore] at h
    | cons t rest =>
      simp only [explore] at h
      split at h
      · obtain ⟨u, hu, he⟩ := ih h
        exact ⟨u, List.mem_cons_of_mem _ hu, he⟩
      · cases hnext : next? program text t with
        | none =>
          rw [hnext] at h
          obtain rfl := Option.some.inj h
          exact ⟨t, List.mem_cons_self, 0, .accept hnext⟩
        | some ts =>
          rw [hnext] at h
          obtain ⟨u, hu, n, he⟩ := ih h
          rcases List.mem_append.mp hu with hu | hu
          · exact ⟨t, List.mem_cons_self, n + 1, .step hnext hu he⟩
          · exact ⟨u, List.mem_cons_of_mem _ hu, n, he⟩

theorem ends_of_scan {count start : ℕ} {tried : Array Bool}
    (h : scan program text count start tried = some saves) :
    ∃ first n, Ends program text n ⟨0, first, []⟩ saves := by
  induction count generalizing start tried with
  | zero => simp [scan] at h
  | succ count ih =>
    simp only [scan] at h
    split at h
    · next found _ hfound =>
      obtain rfl := Option.some.inj h
      obtain ⟨t, ht, n, he⟩ := ends_of_explore (congrArg Prod.fst hfound)
      exact ⟨start, n, List.mem_singleton.mp ht ▸ he⟩
    · exact ih h

inductive Moves (t : Thread) : Instr → Thread → Prop
  | one (set : Charset) : Moves t (.one set) { t with pc := t.pc + 1, pos := t.pos + 1 }
  | look (l : Look) : Moves t (.look l) { t with pc := t.pc + 1 }
  | first (first second : ℤ) : Moves t (.split first second) { t with pc := (t.pc + first).toNat }
  | second (first second : ℤ) : Moves t (.split first second) { t with pc := (t.pc + second).toNat }
  | jump (offset : ℤ) : Moves t (.jump offset) { t with pc := (t.pc + offset).toNat }
  | save (slot : ℕ) : Moves t (.save slot) { t with pc := t.pc + 1, saves :=
    (slot, t.pos) :: t.saves }

theorem Ends.exists_moves {n : ℕ} {instr : Instr} (he : Ends program text n t saves)
    (hinstr : program[t.pc]? = some instr) (hne : instr ≠ .accept) :
    ∃ n' u, n = n' + 1 ∧ Moves t instr u ∧ Ends program text n' u saves := by
  cases he with
  | accept h =>
    unfold next? at h
    rw [hinstr] at h
    cases instr <;> simp at h hne
    all_goals split at h <;> cases h
  | @step n' _ u ts _ h hu he =>
    refine ⟨n', u, rfl, ?_, he⟩
    unfold next? at h
    rw [hinstr] at h
    cases instr with
    | accept => exact absurd rfl hne
    | one set =>
      dsimp only at h
      split at h
      · obtain rfl := Option.some.inj h
        exact List.mem_singleton.mp hu ▸ .one set
      · obtain rfl := Option.some.inj h
        cases hu
    | look l =>
      dsimp only at h
      split at h
      · obtain rfl := Option.some.inj h
        exact List.mem_singleton.mp hu ▸ .look l
      · obtain rfl := Option.some.inj h
        cases hu
    | split first second =>
      obtain rfl := Option.some.inj h
      rcases List.mem_pair.mp hu with rfl | rfl
      · exact .first first second
      · exact .second first second
    | jump offset =>
      obtain rfl := Option.some.inj h
      exact List.mem_singleton.mp hu ▸ .jump offset
    | save slot =>
      obtain rfl := Option.some.inj h
      exact List.mem_singleton.mp hu ▸ .save slot

/-- What code saves between two positions, the last one first: groups are closed after they are
opened. -/
inductive Balanced : ℕ → ℕ → Saves → Prop
  | nil {lo hi : ℕ} (h : lo ≤ hi) : Balanced lo hi []
  | group {lo hi : ℕ} {new : Saves} (i : ℕ) (hnew : Balanced lo hi new) :
    Balanced lo hi ((2 * i + 1, hi) :: (new ++ [(2 * i, lo)]))
  | append {lo mid hi : ℕ} {new new' : Saves} (hnew : Balanced lo mid new)
    (hnew' : Balanced mid hi new') : Balanced lo hi (new' ++ new)

theorem Balanced.le (h : Balanced lo hi new) : lo ≤ hi := by
  induction h with
  | nil h => exact h
  | group _ _ ih => exact ih
  | append _ _ ih ih' => exact Nat.le_trans ih ih'

theorem Balanced.bounds (h : Balanced lo hi new) : ∀ e ∈ new, lo ≤ e.2 ∧ e.2 ≤ hi := by
  induction h with
  | nil _ => simp
  | group i hnew ih =>
    have hle := hnew.le
    simp only [List.mem_cons, List.mem_append, List.not_mem_nil, or_false]
    rintro e (rfl | he | rfl)
    · exact ⟨hle, le_rfl⟩
    · exact ih e he
    · exact ⟨le_rfl, hle⟩
  | append hnew hnew' ih ih' =>
    have hle := hnew.le
    have hle' := hnew'.le
    intro e he
    rcases List.mem_append.mp he with he | he
    · have hbounds := ih' e he
      omega
    · have hbounds := ih e he
      omega

theorem mem_of_lookup {slot a : ℕ} (h : new.lookup slot = some a) : (slot, a) ∈ new := by
  obtain ⟨later, earlier, rfl, -⟩ := List.lookup_eq_some_iff.mp h
  simp

/-- A group that was opened was closed, there or later. -/
theorem Balanced.exists_close (h : Balanced lo hi new) {i a : ℕ}
    (ha : new.lookup (2 * i) = some a) : ∃ b, new.lookup (2 * i + 1) = some b ∧ a ≤ b := by
  induction h with
  | nil _ => cases ha
  | @group lo hi new j hnew ih =>
    have hodd : (2 * i == 2 * j + 1) = false := by rw [beq_eq_false_iff_ne]; omega
    rw [List.lookup_cons, hodd, List.lookup_append] at ha
    have hle : a ≤ hi := by
      rcases Option.or_eq_some_iff.mp ha with ha | ⟨-, ha⟩
      · exact (hnew.bounds _ (mem_of_lookup ha)).2
      · have hmem := List.mem_singleton.mp (mem_of_lookup ha)
        rw [(Prod.mk.inj hmem).2]
        exact hnew.le
    rw [List.lookup_cons]
    cases hij : 2 * i + 1 == 2 * j + 1 with
    | true => exact ⟨hi, rfl, hle⟩
    | false =>
      rcases Option.or_eq_some_iff.mp ha with ha | ⟨-, ha⟩
      · obtain ⟨b, hb, hab⟩ := ih ha
        exact ⟨b, by simp [List.lookup_append, hb], hab⟩
      · have hmem := List.mem_singleton.mp (mem_of_lookup ha)
        rw [(Prod.mk.inj hmem).1] at hij
        simp at hij
  | @append lo mid hi new new' hnew hnew' ih ih' =>
    rw [List.lookup_append] at ha ⊢
    rcases Option.or_eq_some_iff.mp ha with ha | ⟨-, ha⟩
    · obtain ⟨b, hb, hab⟩ := ih' ha
      exact ⟨b, by rw [hb]; rfl, hab⟩
    · obtain ⟨b, hb, hab⟩ := ih ha
      cases hb' : new'.lookup (2 * i + 1) with
      | none => exact ⟨b, hb, hab⟩
      | some b' =>
        have hbefore := (hnew.bounds _ (mem_of_lookup ha)).2
        have hbehind := (hnew'.bounds _ (mem_of_lookup hb')).1
        exact ⟨b', rfl, Nat.le_trans hbefore hbehind⟩

def ComesBy (program : Array Instr) (text : Array Char) (n : ℕ) (t : Thread) (saves : Saves)
    (pc : ℕ) : Prop :=
  ∃ n' ≤ n, ∃ u new, u.pc = pc ∧ u.saves = new ++ t.saves ∧ Balanced t.pos u.pos new ∧
    Ends program text n' u saves

theorem ComesBy.start {n pc : ℕ} (he : Ends program text n t saves) (hpc : t.pc = pc) :
    ComesBy program text n t saves pc :=
  ⟨n, le_rfl, t, [], hpc, rfl, .nil le_rfl, he⟩

theorem ComesBy.trans {n pc pc' : ℕ} (h : ComesBy program text n t saves pc)
    (h' : ∀ n' ≤ n, ∀ u : Thread, u.pc = pc → Ends program text n' u saves →
      ComesBy program text n' u saves pc') : ComesBy program text n t saves pc' := by
  obtain ⟨n₁, hle₁, u₁, new₁, hpc₁, hsaves₁, hnew₁, he₁⟩ := h
  obtain ⟨n₂, hle₂, u₂, new₂, hpc₂, hsaves₂, hnew₂, he₂⟩ := h' n₁ hle₁ u₁ hpc₁ he₁
  refine ⟨n₂, Nat.le_trans hle₂ hle₁, u₂, new₂ ++ new₁, hpc₂, ?_, hnew₁.append hnew₂, he₂⟩
  rw [hsaves₂, hsaves₁, List.append_assoc]

theorem ComesBy.of_move {n pc : ℕ} (h : ComesBy program text n u saves pc)
    (hsaves : u.saves = t.saves) (hpos : t.pos ≤ u.pos) :
    ComesBy program text (n + 1) t saves pc := by
  obtain ⟨n', hle, v, new, hpc, hv, hnew, he⟩ := h
  refine ⟨n', Nat.le_succ_of_le hle, v, new ++ [], hpc, ?_, .append (.nil hpos) hnew, he⟩
  rw [hv, hsaves, List.append_nil]

def Stands (program : Array Instr) (k : ℕ) (code : List Instr) : Prop :=
  ∀ j < code.length, program[k + j]? = code[j]?

theorem Stands.left {k : ℕ} {code code' : List Instr} (h : Stands program k (code ++ code')) :
    Stands program k code := by
  intro j hj
  rw [h j (by rw [List.length_append]; omega), List.getElem?_append_left hj]

theorem Stands.right {k : ℕ} {code code' : List Instr} (h : Stands program k (code ++ code')) :
    Stands program (k + code.length) code' := by
  intro j hj
  rw [Nat.add_assoc, h _ (by rw [List.length_append]; omega), List.getElem?_append_right (by omega),
    Nat.add_sub_cancel_left]

theorem Stands.head {k : ℕ} {code : List Instr} {instr : Instr}
    (h : Stands program k (instr :: code)) : program[k]? = some instr := h 0 (Nat.succ_pos _)

theorem Stands.tail {k : ℕ} {code : List Instr} {instr : Instr}
    (h : Stands program k (instr :: code)) : Stands program (k + 1) code := by
  have happend : Stands program k ([instr] ++ code) := h
  exact happend.right

/-- Whoever enters the code at its front leaves it at its end, in balance, wherever it stands. -/
def Passes (code : List Instr) : Prop :=
  ∀ ⦃program : Array Instr⦄ ⦃text : Array Char⦄ ⦃k n : ℕ⦄ ⦃t : Thread⦄ ⦃saves : Saves⦄,
    Stands program k code → t.pc = k → Ends program text n t saves →
      ComesBy program text n t saves (k + code.length)

theorem passes_nil : Passes [] := fun _ _ _ _ _ _ _ hpc he => .start he hpc

theorem passes_one (set : Charset) : Passes [.one set] := by
  intro program text k n t saves hstands hpc he
  obtain ⟨n', u, rfl, hmoves, he⟩ := he.exists_moves (hpc ▸ hstands.head) (by simp)
  cases hmoves
  refine .of_move (.start he ?_) rfl (Nat.le_succ t.pos)
  rw [hpc]
  rfl

theorem passes_look (l : Look) : Passes [.look l] := by
  intro program text k n t saves hstands hpc he
  obtain ⟨n', u, rfl, hmoves, he⟩ := he.exists_moves (hpc ▸ hstands.head) (by simp)
  cases hmoves
  refine .of_move (.start he ?_) rfl le_rfl
  rw [hpc]
  rfl

theorem Passes.append {code code' : List Instr} (hcode : Passes code) (hcode' : Passes code') :
    Passes (code ++ code') := by
  intro program text k n t saves hstands hpc he
  rw [List.length_append, ← Nat.add_assoc]
  exact (hcode hstands.left hpc he).trans fun n' _ u hu he => hcode' hstands.right hu he

theorem comesBy_of_choose {n k pc : ℕ} {greedy : Bool} {enter leave : ℤ}
    (hinstr : program[k]? = some (Pattern.choose greedy enter leave)) (hpc : t.pc = k)
    (he : Ends program text n t saves)
    (hgo : ∀ n' < n, ∀ u : Thread, u.pc = (k + enter).toNat ∨ u.pc = (k + leave).toNat →
      Ends program text n' u saves → ComesBy program text n' u saves pc) :
    ComesBy program text n t saves pc := by
  obtain ⟨n', u, rfl, hmoves, he⟩ :=
    he.exists_moves (hpc ▸ hinstr) (by cases greedy <;> simp [Pattern.choose])
  subst hpc
  cases greedy with
  | true =>
    cases hmoves with
    | first => exact .of_move (hgo n' (Nat.lt_succ_self _) _ (.inl rfl) he) rfl le_rfl
    | second => exact .of_move (hgo n' (Nat.lt_succ_self _) _ (.inr rfl) he) rfl le_rfl
  | false =>
    cases hmoves with
    | first => exact .of_move (hgo n' (Nat.lt_succ_self _) _ (.inr rfl) he) rfl le_rfl
    | second => exact .of_move (hgo n' (Nat.lt_succ_self _) _ (.inl rfl) he) rfl le_rfl

theorem Passes.optionally {code : List Instr} (hcode : Passes code) (greedy : Bool) :
    Passes (Pattern.optionally greedy code) := by
  intro program text k n t saves hstands hpc he
  refine comesBy_of_choose hstands.head hpc he fun n' _ u hu he => ?_
  have hlength : k + (Pattern.optionally greedy code).length = k + 1 + code.length := by
    simp only [Pattern.optionally, List.length_cons]
    omega
  rw [hlength]
  rcases hu with hu | hu
  · exact hcode hstands.tail (by omega) he
  · exact .start he (by omega)

theorem Passes.repeatedly {code : List Instr} (hcode : Passes code) (greedy : Bool) :
    Passes (Pattern.repeatedly greedy code) := by
  -- By induction on the steps that are left: each round takes some.
  intro program text k n t saves hstands hpc he
  induction n using Nat.strong_induction_on generalizing t with
  | _ n ih =>
    refine (hcode hstands.left hpc he).trans fun n' hn' u hu he => ?_
    refine comesBy_of_choose hstands.right.head hu he fun n'' hn'' v hv he => ?_
    rcases hv with hv | hv
    · exact ih n'' (by omega) (by omega) he
    · refine .start he ?_
      simp only [Pattern.repeatedly, List.length_append, List.length_singleton]
      omega

theorem Passes.upTo {code : List Instr} (hcode : Passes code) (greedy : Bool) (n : ℕ) :
    Passes (Pattern.upTo greedy code n) := by
  induction n with
  | zero => exact passes_nil
  | succ n ih => exact (hcode.append ih).optionally greedy

theorem Passes.copies {code : List Instr} (hcode : Passes code) (n : ℕ) :
    Passes (Pattern.copies n code) := by
  induction n with
  | zero => exact passes_nil
  | succ n ih => exact hcode.append ih

theorem Passes.repeatCode {code : List Instr} (hcode : Passes code) (greedy : Bool) (min : ℕ)
    (max : Option ℕ) : Passes (Pattern.repeatCode greedy code min max) := by
  cases max with
  | some max => cases min <;> exact (hcode.copies _).append (hcode.upTo greedy _)
  | none =>
    cases min with
    | zero => exact (hcode.repeatedly greedy).optionally greedy
    | succ min => exact (hcode.copies min).append (hcode.repeatedly greedy)

theorem Passes.alt {code code' : List Instr} (hcode : Passes code) (hcode' : Passes code') :
    Passes (.split 1 (code.length + 2) :: (code ++ .jump (code'.length + 1) :: code')) := by
  intro program text k n t saves hstands hpc he
  refine @comesBy_of_choose program text t saves n k _ true _ _ hstands.head hpc he
    fun n' _ u hu he => ?_
  have hlength :
      k + (Instr.split 1 (code.length + 2) :: (code ++ .jump (code'.length + 1) :: code')).length =
      k + 1 + code.length + 1 + code'.length := by
    simp only [List.length_cons, List.length_append]
    omega
  rw [hlength]
  rcases hu with hu | hu
  · refine (hcode hstands.tail.left (by omega) he).trans fun n'' _ v hv he => ?_
    obtain ⟨n₃, w, rfl, hmoves, he⟩ := he.exists_moves (hv ▸ hstands.tail.right.head) (by simp)
    cases hmoves
    exact .of_move (.start he (by dsimp only; omega)) rfl le_rfl
  · exact hcode' hstands.tail.right.tail (by omega) he

theorem Passes.group {code : List Instr} (hcode : Passes code) (i : ℕ) :
    Passes (.save (2 * i) :: (code ++ [.save (2 * i + 1)])) := by
  intro program text k n t saves hstands hpc he
  obtain ⟨n₁, u, rfl, hmoves, he⟩ := he.exists_moves (hpc ▸ hstands.head) (by simp)
  cases hmoves
  obtain ⟨n₂, hle, v, new, hv, hsaves, hnew, he⟩ := hcode hstands.tail.left (by rw [hpc]) he
  obtain ⟨n₃, w, rfl, hmoves, he⟩ := he.exists_moves (hv ▸ hstands.tail.right.head) (by simp)
  cases hmoves
  refine ⟨n₃, by omega, { v with pc := v.pc + 1, saves := (2 * i + 1, v.pos) :: v.saves },
    (2 * i + 1, v.pos) :: (new ++ [(2 * i, t.pos)]), ?_, ?_, hnew.group i, he⟩
  · simp only [hv, List.length_cons, List.length_append, List.length_nil]
    omega
  · simp [hsaves]

theorem passes_code (p : Pattern) : Passes p.code := by
  induction p with
  | empty => exact passes_nil
  | one set => exact passes_one set
  | look l => exact passes_look l
  | seq a b iha ihb => exact iha.append ihb
  | alt a b iha ihb => exact iha.alt ihb
  | rep a min max greedy ih => exact ih.repeatCode greedy min max
  | group i name a ih => exact ih.group i

/-- A way to the end of a program opens the whole match first and closes it last. -/
theorem exists_balanced {p : Pattern} {n first : ℕ}
    (he : Ends p.program text n ⟨0, first, []⟩ saves) :
    ∃ last new, saves = (1, last) :: (new ++ [(0, first)]) ∧ Balanced first last new := by
  have hstands : Stands p.program 0 (.save 0 :: (p.code ++ [.save 1, .accept])) := by
    intro j _
    rw [Pattern.program, List.getElem?_toArray, Nat.zero_add]
  obtain ⟨n₁, u, rfl, hmoves, he⟩ := he.exists_moves hstands.head (by simp)
  cases hmoves
  obtain ⟨n₂, hle, v, new, hv, hsaves, hnew, he⟩ := passes_code p hstands.tail.left rfl he
  obtain ⟨n₃, w, rfl, hmoves, he⟩ := he.exists_moves (hv ▸ hstands.tail.right.head) (by simp)
  cases hmoves
  have haccept : p.program[v.pc + 1]? = some .accept := hv ▸ hstands.tail.right.tail.head
  refine ⟨v.pos, new, ?_, hnew⟩
  cases he with
  | accept => simp [hsaves]
  | step h =>
    simp [next?, haccept] at h

end Search

namespace Pattern

/-- The groups that took part end where they start or later, and the whole match is one of them. -/
theorem spans_of_search {p : Pattern} {text : List Char} {start : ℕ}
    {groups : List (Option (ℕ × ℕ))} (h : p.search text start = some groups) :
    (∀ a b, some (a, b) ∈ groups → a ≤ b) ∧ ∃ a b, groups[0]? = some (some (a, b)) := by
  unfold search at h
  obtain ⟨saves, hscan, rfl⟩ := Option.map_eq_some_iff.mp h
  obtain ⟨first, n, he⟩ := Search.ends_of_scan hscan
  obtain ⟨last, new, rfl, hnew⟩ := Search.exists_balanced he
  have hwhole : Search.Balanced first last ((1, last) :: (new ++ [(0, first)])) := hnew.group 0
  refine ⟨fun a b hmem => ?_, ?_⟩
  · obtain ⟨i, -, hi⟩ := List.mem_map.mp hmem
    split at hi
    · next a' b' ha hb =>
      obtain ⟨c, hc, hle⟩ := hwhole.exists_close ha
      obtain rfl := Option.some.inj (hb.symm.trans hc)
      obtain ⟨rfl, rfl⟩ := Prod.mk.inj (Option.some.inj hi)
      exact hle
    · cases hi
  · obtain ⟨a, ha⟩ : ∃ a, ((1, last) :: (new ++ [(0, first)])).lookup 0 = some a := by
      cases hnew : new.lookup 0 <;> simp [List.lookup_cons, List.lookup_append, hnew]
    have hpos : 0 < p.groupNames.length := by simp [groupNames]
    refine ⟨a, last, ?_⟩
    rw [List.getElem?_map, List.getElem?_range hpos]
    simp [ha]

end Pattern

end LateBinding
