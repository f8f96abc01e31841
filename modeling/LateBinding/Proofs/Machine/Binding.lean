import LateBinding.Proofs.Machine.Effect

/-! # Binding the parameters of blocks

Arguments are cut down to the maximum and then filled up to the minimum; the items of a spread array
are cut down or else filled up. Both come to the same parameters, unless the maximum is below the
minimum and there are more items than it.
-/

namespace LateBinding

open Eval

variable {m m' : Machine} {host : Host} {send : Sender} {n k low : ℕ} {high : Option ℕ}
  {spread : Bool} {items : List Value} {args : Args} {v : Value}

namespace Args

def bound (low : ℕ) (high : Option ℕ) (items : List Value) : List Value :=
  items.take (kept high items.length) ++ List.replicate (low - kept high items.length) .nil

theorem kept_le (high : Option ℕ) (n : ℕ) : kept high n ≤ n := by
  cases high with
  | none => exact Nat.le_refl n
  | some k => exact Nat.min_le_left n k

theorem length_bound (low : ℕ) (high : Option ℕ) (items : List Value) :
    (bound low high items).length = max low (kept high items.length) := by
  have hkept := kept_le high items.length
  simp [bound]
  omega

theorem fitted?_eq (low : ℕ) (high : Option ℕ) (items : List Value) :
    fitted? low high items = if Exceeds low high items.length then none
    else some (bound low high items) := by
  cases high with
  | none => simp [fitted?, padded?, Exceeds, bound, kept]
  | some k =>
    have htake : items.take (min items.length k) = items.take k := by
      rw [List.take_eq_take_iff]
      omega
    simp [fitted?, padded?, Exceeds, bound, kept, htake, Nat.min_comm k]

theorem spreadOut?_of_lt (low : ℕ) (h : k < items.length) :
    spreadOut? low (some k) items = some (items.take k) := by
  simp [spreadOut?, h]

theorem spreadOut?_of_le (low : ℕ) (h : ∀ k ∈ high, items.length ≤ k) :
    spreadOut? low high items = fitted? low high items := by
  cases high with
  | none => rfl
  | some k =>
    have hk : items.length ≤ k := h k rfl
    simp [spreadOut?, fitted?, Nat.not_lt.mpr hk, List.take_of_length_le hk]

theorem fitted?_of_lt (hlow : low ≤ k) (h : k < items.length) :
    fitted? low (some k) items = some (items.take k) := by
  have hkept : kept (some k) items.length = k := Nat.min_eq_right (by omega)
  have hroom : ¬ Exceeds low (some k) items.length := by
    unfold Exceeds
    omega
  simp [fitted?_eq, hroom, bound, hkept, hlow]

theorem fitted?_ne_of_lt (hlow : k < low) : fitted? low (some k) items ≠ some (items.take k) := by
  intro h
  rw [fitted?_eq] at h
  split at h
  · cases h
  · have hlength := congrArg List.length (Option.some.inj h)
    rw [length_bound, List.length_take] at hlength
    omega

/-- The two ways differ when the maximum is below the minimum and there are more items than it. -/
theorem spreadOut?_eq_fitted?_iff : spreadOut? low high items = fitted? low high items ↔
    high = none ∨ ∃ k, high = some k ∧ (items.length ≤ k ∨ low ≤ k) := by
  cases high with
  | none => simp [spreadOut?_of_le]
  | some k =>
    by_cases hk : items.length ≤ k
    · simp [spreadOut?_of_le, hk]
    · have hlt : k < items.length := Nat.lt_of_not_le hk
      rw [spreadOut?_of_lt low hlt]
      by_cases hlow : low ≤ k
      · simp [fitted?_of_lt hlow hlt, hlow]
      · have hne : fitted? low (some k) items ≠ _ := fitted?_ne_of_lt (Nat.lt_of_not_le hlow)
        simp [hk, hlow, hne.symm]

example : spreadOut? 3 (some 1) [.nil, .nil] = some [.nil] ∧
    fitted? 3 (some 1) [.nil, .nil] = some [.nil, .nil, .nil] := by decide

end Args

namespace Eval

theorem orPanic_inj {α : Type} {x y : Option α} : orPanic x m = orPanic y m ↔ x = y := by
  constructor
  · intro h
    cases x <;> cases y <;> cases h <;> rfl
  · rintro rfl
    rfl

theorem after_orPanic {α : Type} (x : Option α) (m : Machine) : (orPanic x).after m = m := by
  cases x <;> rfl

theorem bindBlock_of_loose (h : spread = false ∨ args.size ≠ 1) :
    bindBlock send args low high spread m = orPanic (Args.fitted? low high args.items) m := by
  obtain ⟨items, keywords⟩ := args
  cases spread with
  | false => rfl
  | true =>
    rcases items with _ | ⟨v, _ | ⟨w, rest⟩⟩
    · rfl
    · simp [Args.size] at h
    · rfl

theorem bindBlock_single (hv : args.items = [v]) : bindBlock send args low high true =
    toAry send v true >>= fun ref => heap >>=
      fun h => orPanic (Args.spreadOut? low high (h.array ref)) := by
  obtain ⟨items, keywords⟩ := args
  subst hv
  rfl

theorem bindBlock_of_toAry {ref : ℕ} (hv : args.items = [v])
    (h : toAry send v true m = .ok ref m') :
    bindBlock send args low high true m =
      orPanic (Args.spreadOut? low high (m'.heap.array ref)) m' := by
  rw [bindBlock_single hv, bind_of_ok h]
  rfl

theorem bindBlock_of_refused {e : Fault} (hv : args.items = [v])
    (h : toAry send v true m = .error e m') :
    bindBlock send args low high true m = .error e m' := by
  rw [bindBlock_single hv, bind_of_error h]

theorem orPanic_fitted (low : ℕ) (high : Option ℕ) (items : List Value) (m : Machine) :
    orPanic (Args.fitted? low high items) m =
      if Args.Exceeds low high items.length then .error .panic m
      else .ok (Args.bound low high items) m := by
  rw [Args.fitted?_eq]
  split <;> rfl

/-- The conversion of a spread argument is all that changes the machine. -/
theorem after_bindBlock (hv : args.items = [v]) :
    (bindBlock send args low high true).after m = (toAry send v true).after m := by
  cases h : toAry send v true m with
  | ok ref m' =>
    have hbind : bindBlock send args low high true m = _ := bindBlock_of_toAry hv h
    have hafter := after_orPanic (Args.spreadOut? low high (m'.heap.array ref)) m'
    unfold after at hafter ⊢
    rw [hbind, h]
    exact hafter
  | error e m' =>
    rw [after_of_error h, after_of_error (bindBlock_of_refused hv h)]

theorem grows_bindBlock (hd : m.Defines Builtin.definitions) :
    m.heap.Grows ((bindBlock (sendWithin host n) args low high spread).after m).heap := by
  have hmeets : (bindBlock (sendWithin host n) args low high spread).Meets (.steady True) _ :=
    meets_bindBlock (Contract.sends_steady host n True) (fun _ _ => trivial) (.inl trivial) spread
  exact (hmeets.step_after hd).grows

/-- What the items of a spread array come to in a machine. -/
structure Spreads (send : Sender) (low : ℕ) (high : Option ℕ) (items : List Value) (m : Machine)
    (outcome : EStateM.Result Fault Machine (List Value)) : Prop where
  agrees : ∀ keywords, outcome = bindBlock send ⟨items, keywords⟩ low high false m ↔
    high = none ∨ ∃ k, high = some k ∧ (items.length ≤ k ∨ low ≤ k)
  inverted : ∀ k, high = some k → k < items.length → k < low → outcome = .ok (items.take k) m

theorem spreads (send : Sender) (low : ℕ) (high : Option ℕ) (items : List Value) (m : Machine) :
    Spreads send low high items m (orPanic (Args.spreadOut? low high items) m) := by
  constructor
  · intro keywords
    rw [bindBlock_of_loose (.inl rfl), orPanic_inj, Args.spreadOut?_eq_fitted?_iff]
  · rintro k rfl hlt -
    rw [Args.spreadOut?_of_lt low hlt]
    rfl

/-- The parameters that arguments are bound to in a machine, and what is left of the machine.
Binding fails by itself only for want of room. -/
structure Binds (send : Sender) (args : Args) (low : ℕ) (high : Option ℕ) (m : Machine) : Prop where
  length : (Args.bound low high args.items).length = max low (Args.kept high args.size)
  loose : ∀ spread, spread = false ∨ args.size ≠ 1 → bindBlock send args low high spread m =
    if Args.Exceeds low high args.size then .error .panic m
    else .ok (Args.bound low high args.items) m
  refused : ∀ v, args.items = [v] → ∀ e m', toAry send v true m = .error e m' →
    bindBlock send args low high true m = .error e m'
  spread : ∀ v, args.items = [v] → ∀ ref m', toAry send v true m = .ok ref m' →
    Spreads send low high (m'.heap.array ref) m' (bindBlock send args low high true m)
  array : ∀ ref, toAry send (.array ref) true m = .ok ref m
  left : ∀ v, args.items = [v] →
    (bindBlock send args low high true).after m = (toAry send v true).after m
  contents : m.Defines Builtin.definitions → ∀ host n, send = sendWithin host n →
    ∀ spread, m.heap.Grows ((bindBlock send args low high spread).after m).heap

theorem bindBlock_binds (send : Sender) (args : Args) (low : ℕ) (high : Option ℕ) (m : Machine) :
    Binds send args low high m where
  length := Args.length_bound low high args.items
  loose _ h := (bindBlock_of_loose h).trans (orPanic_fitted low high args.items m)
  refused _ hv _ _ h := bindBlock_of_refused hv h
  spread _ hv ref m' h := by
    rw [bindBlock_of_toAry hv h]
    exact spreads send low high (m'.heap.array ref) m'
  array _ := rfl
  left _ hv := after_bindBlock hv
  contents := by
    rintro hd host n rfl spread
    exact grows_bindBlock hd

/-- A list of 2^62 parameters is too long. -/
theorem bindBlock_out_of_room :
    bindBlock (sendWithin .idle 1) (.positional [integer 7]) (2 ^ 62) none false
      (Machine.build .standard) = .error .panic (Machine.build .standard) := by
  rw [bindBlock_of_loose (.inl rfl), orPanic_fitted, if_pos]
  constructor <;> decide

end Eval

end LateBinding
