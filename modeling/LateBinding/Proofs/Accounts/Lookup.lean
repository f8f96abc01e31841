import LateBinding.Accounts.Lookup
import Mathlib.Data.List.Basic
import Mathlib.Tactic.Ring

/-! # Where a look-up ends

The buffer doubles from call to call, so that a look-up ends after eleven calls at the latest. It
ends with the first reply that does not ask for more room, or else with the one to the largest
buffer, and this reply alone decides.
-/

namespace LateBinding.Accounts

variable {α : Type} {call : ℕ → Reply α} {size k n : ℕ} {answer : Except ℤ (Option α)}

/-- What an answer says about the reply that it stems from. An entry is missing by the codes for no
such file (2), no such process (3), a bad descriptor (9) and a missing permission (1), or by its
absence where all went well. -/
structure Reply.Settles (r : Reply α) (answer : Except ℤ (Option α)) : Prop where
  missing : answer = .ok none ↔ r.code ∈ [2, 3, 9, 1] ∨ r.code = 0 ∧ r.entry = none
  found (entry : α) : answer = .ok (some entry) ↔ r.code = 0 ∧ r.entry = some entry
  failed (code : ℤ) : answer = .error code ↔ r.code = code ∧ code ≠ 0 ∧ code ∉ [2, 3, 9, 1]

theorem Reply.settles_outcome (r : Reply α) : r.Settles r.outcome := by
  unfold outcome
  split_ifs with hmissing hzero
  · have hcode : r.code ≠ 0 := fun h => absurd (h ▸ hmissing) (by decide)
    exact {
      missing := iff_of_true rfl (.inl hmissing)
      found _ := iff_of_false (by simp) fun h => hcode h.1
      failed _ := iff_of_false (by simp) fun h => h.2.2 (h.1 ▸ hmissing) }
  · exact {
      missing := by simp [hzero]
      found _ := by simp [hzero]
      failed _ := iff_of_false (by simp) fun h => h.2.1 (h.1 ▸ hzero) }
  · exact {
      missing := iff_of_false (by simp) fun h => h.elim hmissing fun h => hzero h.1
      found _ := iff_of_false (by simp) fun h => hzero h.1
      failed code := by
        constructor
        · rintro ⟨⟩
          exact ⟨rfl, hzero, hmissing⟩
        · rintro ⟨rfl, -⟩
          rfl }

/-- The calls from a size on end with the one after `n` doublings, of the `k` that there are up to
the largest size. -/
structure EndsAfter (call : ℕ → Reply α) (size k n : ℕ) : Prop where
  bound : n ≤ k
  before : ∀ i < n, (call (size * 2 ^ i)).code = tooSmall
  last : (call (size * 2 ^ n)).code = tooSmall → n = k

theorem endsAfter_zero (h : (call size).code = tooSmall → k = 0) : EndsAfter call size k 0 where
  bound := Nat.zero_le k
  before := by simp
  last hcode := (h (by simpa using hcode)).symm

theorem doubled_mul_pow (size i : ℕ) : 2 * size * 2 ^ i = size * 2 ^ (i + 1) := by ring

theorem endsAfter_succ_iff : EndsAfter call size (k + 1) (n + 1) ↔
    (call size).code = tooSmall ∧ EndsAfter call (2 * size) k n := by
  constructor
  · rintro ⟨hbound, hbefore, hlast⟩
    refine ⟨by simpa using hbefore 0 n.succ_pos, Nat.le_of_succ_le_succ hbound, fun i hi => ?_,
      fun hcode => ?_⟩
    · rw [doubled_mul_pow]
      exact hbefore (i + 1) (Nat.succ_lt_succ hi)
    · exact Nat.succ_inj.mp (hlast (doubled_mul_pow size n ▸ hcode))
  · rintro ⟨hcode, hbound, hbefore, hlast⟩
    refine ⟨Nat.succ_le_succ hbound, fun i hi => ?_, fun h => ?_⟩
    · cases i with
      | zero => simpa using hcode
      | succ i =>
        rw [← doubled_mul_pow]
        exact hbefore i (Nat.lt_of_succ_lt_succ hi)
    · rw [← doubled_mul_pow] at h
      rw [hlast h]

theorem exists_endsAfter (call : ℕ → Reply α) (size k : ℕ) : ∃ n, EndsAfter call size k n := by
  induction k generalizing size with
  | zero => exact ⟨0, endsAfter_zero fun _ => rfl⟩
  | succ k ih =>
    by_cases hcode : (call size).code = tooSmall
    · obtain ⟨n, hn⟩ := ih (2 * size)
      exact ⟨n + 1, endsAfter_succ_iff.mpr ⟨hcode, hn⟩⟩
    · exact ⟨0, endsAfter_zero fun h => absurd h hcode⟩

/-- A call that comes with an effect for the size of its buffer. -/
def withEffect {m : Type → Type} [Monad m] (effect : ℕ → m Unit) (call : ℕ → Reply α) (size : ℕ) :
    m (Reply α) := do
  effect size
  return call size

section Effects

variable {m : Type → Type} [Monad m] [LawfulMonad m] {effect : ℕ → m Unit} {pos : 0 < size}

theorem lookupFrom_of_settled (h : (call size).code = tooSmall → largestSize ≤ size) :
    lookupFrom (withEffect effect call) size pos =
      (do effect size; return (call size).outcome) := by
  have hlast : ¬ ((call size).code = tooSmall ∧ size < largestSize) :=
    fun ⟨hcode, hroom⟩ => (h hcode).not_gt hroom
  rw [lookupFrom]
  simp [withEffect, hlast]

theorem lookupFrom_of_tooSmall (hcode : (call size).code = tooSmall) (hroom : size < largestSize) :
    lookupFrom (withEffect effect call) size pos =
      (do effect size; lookupFrom (withEffect effect call) (2 * size) (by omega)) := by
  rw [lookupFrom]
  simp [withEffect, hcode, hroom]

/-- The calls are made with the doubled sizes, in order and no others, and the last reply is the one
that counts. -/
theorem lookupFrom_of_endsAfter (h : EndsAfter call size k n) (hk : size * 2 ^ k = largestSize) :
    lookupFrom (withEffect effect call) size pos =
      (do forM ((List.range (n + 1)).map (size * 2 ^ ·)) effect
          return (call (size * 2 ^ n)).outcome) := by
  -- each doubling takes one from `n` and from `k`, and leaves `size * 2 ^ k` the largest size
  induction n generalizing size k with
  | zero =>
    have hlast (hcode : (call size).code = tooSmall) : largestSize ≤ size := by
      rw [← hk, ← h.last (by simpa using hcode), pow_zero, mul_one]
    rw [lookupFrom_of_settled hlast]
    simp
  | succ n ih =>
    obtain ⟨k, rfl⟩ : ∃ j, k = j + 1 := ⟨k - 1, by have := h.bound; omega⟩
    obtain ⟨hcode, hrest⟩ := endsAfter_succ_iff.mp h
    have hroom : size < largestSize := by
      rw [← hk]
      exact lt_mul_of_one_lt_right pos (Nat.one_lt_two_pow k.succ_ne_zero)
    rw [lookupFrom_of_tooSmall hcode hroom, ih hrest ((doubled_mul_pow size k).trans hk)]
    simp only [doubled_mul_pow]
    rw [List.range_succ_eq_map (n := n + 1)]
    simp [Function.comp_def]

end Effects

def noting (call : ℕ → Reply α) : ℕ → StateM (List ℕ) (Reply α) :=
  withEffect (fun size => modify (· ++ [size])) call

theorem run_forM_noting (sizes log : List ℕ) :
    (forM sizes fun size => (modify (· ++ [size]) : StateM (List ℕ) Unit)).run log =
      ((), log ++ sizes) := by
  induction sizes generalizing log with
  | nil => exact Prod.ext rfl log.append_nil.symm
  | cons size sizes ih => simp [ih]

theorem run_lookup_noting (h : EndsAfter call firstSize 10 n) :
    (lookup (noting call)).run [] =
      ((call (firstSize * 2 ^ n)).outcome, (List.range (n + 1)).map (firstSize * 2 ^ ·)) := by
  rw [lookup, noting, lookupFrom_of_endsAfter h rfl, StateT.run_bind, run_forM_noting]
  rfl

theorem run_lookup (h : EndsAfter call firstSize 10 n) :
    Id.run (lookup call) = (call (firstSize * 2 ^ n)).outcome := by
  change Id.run (lookup (withEffect (m := Id) (fun _ => pure ()) call)) = _
  rw [lookup, lookupFrom_of_endsAfter h rfl]
  simp

theorem EndsAfter.outcome_eq_tooSmall_iff (h : EndsAfter call size k n) :
    (call (size * 2 ^ n)).outcome = .error tooSmall ↔
      ∀ i ≤ k, (call (size * 2 ^ i)).code = tooSmall := by
  rw [(Reply.settles_outcome _).failed]
  constructor
  · rintro ⟨hcode, -⟩ i hi
    obtain rfl | hlt := (hi.trans_eq (h.last hcode).symm).eq_or_lt
    · exact hcode
    · exact h.before i hlt
  · intro hall
    exact ⟨hall n h.bound, by decide, by decide⟩

/-- Whatever its calls answer, a look-up makes at most eleven of them, with the sizes 1024, 2048 and
so on in this order and none above 2 ^ 20. All but the last one ask for more room (34), and the last
one asks for it only with the largest size. The answer is what the last reply says, so that a want
of room is reported only after the largest size. -/
theorem lookup_settles (call : ℕ → Reply α) : ∃ n ≤ 10, ∃ answer,
    (lookup (noting call)).run [] = (answer, (List.range (n + 1)).map (1024 * 2 ^ ·)) ∧
      Id.run (lookup call) = answer ∧
      (∀ i < n, (call (1024 * 2 ^ i)).code = 34) ∧
      ((call (1024 * 2 ^ n)).code = 34 → 1024 * 2 ^ n = 2 ^ 20) ∧
      (call (1024 * 2 ^ n)).Settles answer ∧
      (answer = .error 34 ↔ ∀ i ≤ 10, (call (1024 * 2 ^ i)).code = 34) := by
  obtain ⟨n, hn⟩ := exists_endsAfter call firstSize 10
  refine ⟨n, hn.bound, _, run_lookup_noting hn, run_lookup hn, hn.before, fun hcode => ?_,
    Reply.settles_outcome _, hn.outcome_eq_tooSmall_iff⟩
  rw [hn.last hcode]
  rfl

/-- An entry of 3000 bytes is found with the third buffer. -/
example : (lookup (noting fun size => if 3000 ≤ size then ⟨0, some 'a'⟩ else ⟨34, none⟩)).run [] =
    (.ok (some 'a'), [1024, 2048, 4096]) := by
  cbv

end LateBinding.Accounts
