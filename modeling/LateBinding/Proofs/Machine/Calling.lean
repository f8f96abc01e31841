import LateBinding.Proofs.Machine.Binding

/-! # Calling blocks

A call settles the parameters first; the body then runs on them, or not at all. What they are
depends on the window of the block and on the arguments, and never on the body.
-/

namespace LateBinding

open Eval

variable {m m' : Machine} {host : Host} {send : Sender} {n : ℕ} {b : Block} {args : Args}
  {isLambda : Bool} {items : List Value} {defs ds : List Definition} {name : String} {s : Symbol}

namespace Block

def Takes (b : Block) (n : ℕ) : Prop := b.min ≤ n ∧ ∀ k ∈ b.max, n ≤ k

instance : Decidable (b.Takes n) := inferInstanceAs (Decidable (_ ∧ _))

theorem accepts_window : b.window.accepts n = true ↔ b.Takes n := by
  unfold window Takes
  cases hmax : b.max with
  | none => simp [Arity.accepts]
  | some k =>
    by_cases hk : k = b.min
    · simp [Arity.accepts, hk]
      omega
    · simp [Arity.accepts, hk]

/-- The arity of a block is that of its least number of parameters, which is negated and moved by
one unless it is also the greatest. -/
theorem exists_arity (hsized : b.min < wordBound) :
    ∃ a, b.arity? = some a ∧ a.toInt = if b.max = some b.min then (b.min : ℤ) else -b.min - 1 := by
  have hint := Int64.toInt_ofNat_of_lt hsized
  unfold wordBound at hsized
  unfold arity?
  by_cases hmax : b.max = some b.min
  · simp [hmax, hint]
  · have hne : Int64.ofNat b.min ≠ Int64.minValue := by
      intro h
      rw [h] at hint
      have hmin : Int64.minValue.toInt < 0 := by decide
      omega
    have hneg : (-Int64.ofNat b.min).toInt = -b.min := by
      rw [Int64.toInt_neg, hint]
      apply Int.bmod_eq_of_le <;> omega
    have hsub : (-Int64.ofNat b.min - 1).toInt = -b.min - 1 := by
      rw [Int64.toInt_sub, hneg, Int64.toInt_one]
      apply Int.bmod_eq_of_le <;> omega
    simp [hmax, hne, hsub]

theorem Takes.arity (hsized : b.min < wordBound) (hn : b.Takes n) :
    ∃ a, b.arity? = some a ∧ (0 ≤ a.toInt → (n : ℤ) = a.toInt) ∧
    (a.toInt < 0 → -a.toInt - 1 ≤ n) := by
  obtain ⟨a, ha, hint⟩ := exists_arity hsized
  obtain ⟨hlow, hhigh⟩ := hn
  refine ⟨a, ha, ?_⟩
  rw [hint]
  by_cases hmax : b.max = some b.min
  · have hle := hhigh _ hmax
    simp [hmax]
    omega
  · simp [hmax]
    omega

theorem takes_bound (hordered : ∀ k ∈ b.max, b.min ≤ k) (items : List Value) :
    b.Takes (Args.bound b.min b.max items).length := by
  unfold Takes
  rw [Args.length_bound]
  constructor
  · omega
  · intro k hk
    have hmin := hordered k hk
    rw [Option.mem_def.mp hk]
    simp [Args.kept]
    omega

theorem exceeds_iff (hordered : ∀ k ∈ b.max, b.min ≤ k) :
    Args.Exceeds b.min b.max n ↔ n < b.min ∧ Args.room < b.min := by
  unfold Args.Exceeds
  cases hmax : b.max with
  | none => rfl
  | some k =>
    have hk := hordered k hmax
    simp [Args.kept]
    omega

end Block

namespace Eval

/-- The items that a block binds: the arguments, or those of the array that a single one is spread
to. -/
inductive Offers (send : Sender) (b : Block) (args : Args) (m : Machine) :
    List Value → Machine → Prop
  | loose (h : b.spread = false ∨ args.size ≠ 1) : Offers send b args m args.items m
  | spread {v : Value} {ref : ℕ} {m' : Machine} (h : b.spread = true) (hv : args.items = [v])
    (hv' : toAry send v true m = .ok ref m') : Offers send b args m (m'.heap.array ref) m'

/-- How far a call gets without the body. -/
inductive Entry
  | refused (e : Fault) (m : Machine)
  | entered (params : List Value) (m : Machine)

def Entry.run (body : List Value → Eval Value) : Entry → EStateM.Result Fault Machine Value
  | .refused e m => .error e m
  | .entered params m => body params m

/-- What a body may rely on, and how a call fails before it. A lambda checks the number of its
arguments; another block fails with the conversion of an argument, or for want of room. -/
structure Entry.Sound (entry : Entry) (send : Sender) (b : Block) (isLambda : Bool) (args : Args)
    (m : Machine) : Prop where
  window : ∀ params m', entry = .entered params m' → b.Takes params.length
  arity : ∀ params m', entry = .entered params m' → ∃ a, b.arity? = some a ∧
    (0 ≤ a.toInt → (params.length : ℤ) = a.toInt) ∧ (a.toInt < 0 → -a.toInt - 1 ≤ params.length)
  lambda : isLambda = true → entry =
    if b.Takes args.size then .entered args.items m
    else .refused (.error (.arity args.size b.window)) m
  loose : isLambda = false →
    (∃ items m', Offers send b args m items m' ∧ entry =
      if items.length < b.min ∧ Args.room < b.min then .refused .panic m'
      else .entered (Args.bound b.min b.max items) m') ∨
    ∃ v e m', b.spread = true ∧ args.items = [v] ∧ toAry send v true m = .error e m' ∧
      entry = .refused e m'

def Calls (host : Host) (send : Sender) (b : Block) (isLambda : Bool) (args : Args) (m : Machine)
    (outcome : EStateM.Result Fault Machine Value) : Prop :=
  ∃ entry : Entry, entry.Sound send b isLambda args m ∧ outcome = entry.run (host.block b.code send)

theorem Calls.of_not_takes {outcome : EStateM.Result Fault Machine Value}
    (h : Calls host send b true args m outcome) (hn : ¬ b.Takes args.size) :
    outcome = .error (.error (.arity args.size b.window)) m := by
  obtain ⟨entry, hsound, rfl⟩ := h
  rw [hsound.lambda rfl, if_neg hn]
  rfl

theorem offers_or_refused (send : Sender) (b : Block) (args : Args) (m : Machine) :
    (∃ items m', Offers send b args m items m') ∨
      ∃ v e m', b.spread = true ∧ args.items = [v] ∧ toAry send v true m = .error e m' := by
  by_cases hloose : b.spread = false ∨ args.size ≠ 1
  · exact .inl ⟨_, _, .loose hloose⟩
  · simp only [not_or, Bool.not_eq_false, not_not] at hloose
    obtain ⟨hspread, hsize⟩ := hloose
    obtain ⟨v, hv⟩ := List.length_eq_one_iff.mp hsize
    cases hary : toAry send v true m with
    | ok ref m' => exact .inl ⟨_, _, .spread hspread hv hary⟩
    | error e m' => exact .inr ⟨v, e, m', hspread, hv, hary⟩

theorem bindBlock_of_offers (hordered : ∀ k ∈ b.max, b.min ≤ k)
    (h : Offers send b args m items m') : bindBlock send args b.min b.max b.spread m =
      if items.length < b.min ∧ Args.room < b.min then .error .panic m'
      else .ok (Args.bound b.min b.max items) m' := by
  simp only [← Block.exceeds_iff hordered]
  rw [← orPanic_fitted]
  cases h with
  | loose h => exact bindBlock_of_loose h
  | @spread v ref _ hspread hv hary =>
    -- with the window in order, both ways come to the same
    rw [hspread, bindBlock_of_toAry hv hary, orPanic_inj, Args.spreadOut?_eq_fitted?_iff]
    cases hmax : b.max with
    | none => exact .inl rfl
    | some k => exact .inr ⟨k, rfl, .inr (hordered k hmax)⟩

def entry (send : Sender) (b : Block) (isLambda : Bool) (args : Args) (m : Machine) : Entry :=
  match parameters send isLambda b args m with
  | .ok params m' => .entered params m'
  | .error e m' => .refused e m'

theorem callProc_eq_run (id : ℕ) : callProc host send ⟨id, .block b, isLambda⟩ args m =
    (entry send b isLambda args m).run (host.block b.code send) := by
  have hcall : callProc host send ⟨id, .block b, isLambda⟩ args =
      parameters send isLambda b args >>= host.block b.code send := rfl
  rw [hcall]
  unfold entry
  cases hp : parameters send isLambda b args m with
  | ok params m' => exact bind_of_ok hp
  | error e m' => exact bind_of_error hp

theorem entry_lambda (send : Sender) (b : Block) (args : Args) (m : Machine) :
    entry send b true args m =
      if b.Takes args.size then .entered args.items m
      else .refused (.error (.arity args.size b.window)) m := by
  have hparams : parameters send true b args m = if b.window.accepts args.size then .ok args.items m
      else .error (.error (.arity args.size b.window)) m := check_bind args b.window _ m
  by_cases htakes : b.Takes args.size <;> simp [entry, hparams, Block.accepts_window, htakes]

theorem entry_of_offers (hordered : ∀ k ∈ b.max, b.min ≤ k) (h : Offers send b args m items m') :
    entry send b false args m =
      if items.length < b.min ∧ Args.room < b.min then .refused .panic m'
      else .entered (Args.bound b.min b.max items) m' := by
  have hparams : parameters send false b args m = _ := bindBlock_of_offers hordered h
  by_cases hroom : items.length < b.min ∧ Args.room < b.min <;> simp [entry, hparams, hroom]

theorem entry_of_refused {v : Value} {e : Fault} (hspread : b.spread = true) (hv : args.items = [v])
    (h : toAry send v true m = .error e m') : entry send b false args m = .refused e m' := by
  have hparams : parameters send false b args m = .error e m' := by
    change bindBlock send args b.min b.max b.spread m = _
    rw [hspread]
    exact bindBlock_of_refused hv h
  unfold entry
  rw [hparams]

theorem takes_of_entered (hordered : ∀ k ∈ b.max, b.min ≤ k)
    (h : entry send b isLambda args m = .entered items m') : b.Takes items.length := by
  cases isLambda with
  | true =>
    rw [entry_lambda] at h
    split at h
    · next htakes =>
      cases h
      exact htakes
    · cases h
  | false =>
    rcases offers_or_refused send b args m with ⟨offered, m₁, hoffers⟩ |
      ⟨v, e, m₁, hspread, hv, hary⟩
    · rw [entry_of_offers hordered hoffers] at h
      split at h
      · cases h
      · cases h
        exact Block.takes_bound hordered offered
    · rw [entry_of_refused hspread hv hary] at h
      cases h

theorem sound_entry (hsized : b.min < wordBound) (hordered : ∀ k ∈ b.max, b.min ≤ k) (send : Sender)
    (isLambda : Bool) (args : Args) (m : Machine) :
    (entry send b isLambda args m).Sound send b isLambda args m where
  window _ _ h := takes_of_entered hordered h
  arity _ _ h := (takes_of_entered hordered h).arity hsized
  lambda := by
    rintro rfl
    exact entry_lambda send b args m
  loose := by
    rintro rfl
    rcases offers_or_refused send b args m with ⟨items, m', hoffers⟩ | ⟨v, e, m', hspread, hv, hary⟩
    · exact .inl ⟨items, m', hoffers, entry_of_offers hordered hoffers⟩
    · exact .inr ⟨v, e, m', hspread, hv, hary, entry_of_refused hspread hv hary⟩

theorem calls_callProc (hsized : b.min < wordBound) (hordered : ∀ k ∈ b.max, b.min ≤ k) (id : ℕ) :
    Calls host send b isLambda args m (callProc host send ⟨id, .block b, isLambda⟩ args m) :=
  ⟨entry send b isLambda args m, sound_entry hsized hordered send isLambda args m,
    callProc_eq_run id⟩

end Eval

namespace Machine

theorem lastDefined_call (hname : name ∈ ["call", "yield", "[]"])
    (hds : ∀ method, (("Proc", name), method) ∉ ds) :
    lastDefined (Builtin.definitions ++ ds) "Proc" name = some (.builtin (.proc .call)) := by
  rw [lastDefined_append hds]
  simp only [List.mem_cons, List.not_mem_nil, or_false] at hname
  rcases hname with rfl | rfl | rfl <;> decide

section

variable (hd : m.Defines (Builtin.definitions ++ ds)) (hname : name ∈ ["call", "yield", "[]"])
  (hds : ∀ method, (("Proc", name), method) ∉ ds)

include hd hname hds

theorem Defines.reply_call (p : Proc) :
    reply host n (.proc p) name args m =
      callProc host (sendWithin host n) p args (m.withSymbols (.proc p) name) := by
  have hreply : reply host n (.proc p) name args m = _ := hd.reply_eq trivial
  rw [show (Value.proc p).className = "Proc" from rfl, lastDefined_call hname hds] at hreply
  exact hreply

theorem Defines.send_call (p : Proc) (hs : s ∈ m.symbols.symbols) (hsname : s.name = name) :
    sendWithin host (n + 1) (.proc p) s args m =
      callProc host (sendWithin host n) p args ((classOf (.proc p)).after m) := by
  have hknows : m.Knows (.proc p) := trivial
  have hfind := hd.findMethod_of_mem hknows hs
  rw [show (Value.proc p).className = "Proc" from rfl, hsname, lastDefined_call hname hds] at hfind
  exact dispatch_of_findMethod hfind

end

/-- What the body of a native block may rely on, and how its call fails before it, in whatever way
the block is called: directly, or by the text or the symbol of a message for which procs still have
the built-in method. Messages bring about nothing but symbols before. -/
theorem block_calls (b : Block) (hsized : b.min < wordBound) (hordered : ∀ k ∈ b.max, b.min ≤ k)
    (isLambda : Bool) (args : Args) (id : ℕ) :
    (∀ host send m, Calls host send b isLambda args m
      (callProc host send ⟨id, .block b, isLambda⟩ args m)) ∧
    ∀ c host m₀ m ds, host.Keeps Extends → ofConfig c = .ok m₀ → Run host m₀ m ds →
      ∀ name ∈ ["call", "yield", "[]"], (∀ method, (("Proc", name), method) ∉ ds) → ∀ n,
        (∃ symbols, Calls host (sendWithin host n) b isLambda args { m with symbols := symbols }
          (reply host n (.proc ⟨id, .block b, isLambda⟩) name args m)) ∧
        ∀ s ∈ m.symbols.symbols, s.name = name →
          ∃ symbols, Calls host (sendWithin host n) b isLambda args { m with symbols := symbols }
            (sendWithin host (n + 1) (.proc ⟨id, .block b, isLambda⟩) s args m) := by
  constructor
  · intro host send m
    exact calls_callProc hsized hordered id
  · intro c host m₀ m ds hh hm₀ hr name hname hds n
    have hd : m.Defines (Builtin.definitions ++ ds) := (defines_ofConfig hm₀).run hh hr
    constructor
    · rw [hd.reply_call hname hds]
      exact ⟨_, calls_callProc hsized hordered id⟩
    · intro s hs hsname
      rw [hd.send_call hname hds _ hs hsname]
      exact ⟨_, calls_callProc hsized hordered id⟩

/-- A lambda with one or two parameters is called without arguments. -/
theorem block_calls_lambda :
    let b : Block := ⟨1, some 2, true, "pair"⟩
    b.min < wordBound ∧ (∀ k ∈ b.max, b.min ≤ k) ∧ Host.idle.Keeps Extends ∧
      ∃ m₀, ofConfig .standard = .ok m₀ ∧
        callProc .idle (sendWithin .idle 0) ⟨0, .block b, true⟩ .empty m₀ =
          .error (.error (.arity 0 (.between 1 2))) m₀ ∧
        ∃ symbols, reply .idle 0 (.proc ⟨0, .block b, true⟩) "call" .empty m₀ =
          .error (.error (.arity 0 (.between 1 2))) { m₀ with symbols := symbols } := by
  intro b
  have hordered : ∀ k ∈ b.max, b.min ≤ k := by decide
  have hnone : ¬ b.Takes Args.empty.size := by decide
  obtain ⟨m₀, hm₀⟩ : ∃ m₀, ofConfig .standard = .ok m₀ := ⟨_, rfl⟩
  obtain ⟨hdirect, hmessages⟩ := block_calls b (by decide) hordered true .empty 0
  obtain ⟨⟨symbols, hmessage⟩, -⟩ :=
    hmessages .standard .idle m₀ m₀ [] Host.keeps_idle hm₀ .start "call" (by decide) (by simp) 0
  refine ⟨by decide, hordered, Host.keeps_idle, m₀, hm₀, ?_, symbols, ?_⟩
  · exact (hdirect .idle _ m₀).of_not_takes hnone
  · exact hmessage.of_not_takes hnone

/-- A block with 2^62 required parameters has no room for them. -/
theorem reply_yield_out_of_room :
    let b : Block := ⟨2 ^ 62, none, false, "first"⟩
    let m := build .standard
    b.min < wordBound ∧ reply .idle 0 (.proc ⟨0, .block b, false⟩) "yield"
      (.positional [integer 7]) m =
      .error .panic (m.withSymbols (.proc ⟨0, .block b, false⟩) "yield") := by
  intro b m
  have hd : m.Defines (Builtin.definitions ++ []) := by simpa using defines_build .standard
  have hordered : ∀ k ∈ b.max, b.min ≤ k := by simp [b]
  have hoffers : Offers (sendWithin .idle 0) b (.positional [integer 7])
      (m.withSymbols (.proc ⟨0, .block b, false⟩) "yield") [integer 7] _ := .loose (.inl rfl)
  constructor
  · decide
  · rw [hd.reply_call (by decide) (by simp), callProc_eq_run, entry_of_offers hordered hoffers,
      if_pos]
    · rfl
    · constructor <;> decide

end Machine

end LateBinding
