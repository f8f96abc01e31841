import LateBinding.Proofs.Symbol.Canonical
import LateBinding.Symbol.Interleaving

/-! # Interning in any order of steps

Between the look-up of a name and its entry other threads may enter it, and even a found name is
counted in a step of its own. In every order of the steps a name still gets one symbol, for good,
and once all threads are done the counters are exact: one miss for each new name, and one count for
each call.
-/

namespace LateBinding

open SymbolTable

variable {t u : SymbolTable} {name : String} {s : Symbol}

theorem SymbolTable.extends_enter (t : SymbolTable) (name : String) :
    t.Extends (t.enter name).2.2 := by
  unfold enter
  split
  · exact .refl t
  · next h => exact extends_register h

theorem SymbolTable.lookup?_enter (t : SymbolTable) (name : String) :
    (t.enter name).2.2.lookup? name = some (t.enter name).1 := by
  cases h : t.lookup? name with
  | some s => simp only [enter, h]
  | none => simpa only [enter, h] using lookup?_register t name

theorem SymbolTable.size_enter (t : SymbolTable) (name : String) :
    (t.enter name).2.2.size = t.size + if (t.enter name).2.1 then 1 else 0 := by
  cases h : t.lookup? name <;> simp [enter, h, register, size]

theorem SymbolTable.registered_enter (t : SymbolTable) (name : String) :
    (t.enter name).2.2.registered ⊆ insert name t.registered := by
  cases h : t.lookup? name with
  | some s =>
    simp only [enter, h]
    exact Set.subset_insert _ _
  | none =>
    simp only [enter, h]
    intro other ho
    rw [mem_registered_iff] at ho
    rcases List.mem_cons.mp ho with rfl | ho
    · exact Set.mem_insert _ _
    · exact Set.mem_insert_of_mem _ (mem_registered_iff.mpr ho)

namespace Interleaving

variable {v w : Thread} {work : List (List String)}

def Thread.calls (w : Thread) : List String := w.done.reverse.map Prod.fst ++ w.names

/-- The misses that remain to be counted: one for a name that has been entered. -/
def Stage.owed : Stage → Nat
  | .obtained _ true => 1
  | _ => 0

/-- The table has the symbols that a thread has obtained, and a call in progress is one for a
name. -/
structure Thread.Settled (t : SymbolTable) (w : Thread) : Prop where
  done : ∀ p ∈ w.done, t.lookup? p.1 = some p.2
  busy : w.stage ≠ .ready → w.names ≠ []
  obtained : ∀ s entered, w.stage = .obtained s entered →
    ∀ name rest, w.names = name :: rest → t.lookup? name = some s

theorem Thread.Settled.of_extends (h : w.Settled t) (hu : t.Extends u) (ht : t.Canonical) :
    w.Settled u :=
  ⟨fun p hp => hu.lookup? ht (h.done p hp), h.busy,
    fun s e hs name rest hn => hu.lookup? ht (h.obtained s e hs name rest hn)⟩

/-- What a step of a thread does to the table and to the thread. -/
structure Moves (t : SymbolTable) (w : Thread) (u : SymbolTable) (v : Thread) : Prop where
  grows : t.Extends u
  tracking : u.tracking = t.tracking
  calls : v.calls = w.calls
  settled : t.Canonical → w.Settled t → v.Settled u
  registered : u.registered ⊆ t.registered ∪ {name | name ∈ w.calls}
  total : t.tracking = true →
    u.hits + u.misses + w.done.length = t.hits + t.misses + v.done.length
  misses : t.tracking = true →
    u.misses + v.stage.owed + t.size = t.misses + w.stage.owed + u.size

theorem moves_refl (t : SymbolTable) (w : Thread) : Moves t w t w :=
  ⟨.refl t, rfl, rfl, fun _ h => h, Set.subset_union_left, fun _ => rfl, fun _ => rfl⟩

theorem moves_lookup {rest : List String} (hn : w.names = name :: rest) (hs : w.stage = .ready) :
    Moves t w t { w with stage := (t.lookup? name).elim .absent (.obtained · false) } := by
  refine ⟨.refl t, rfl, rfl, fun _ h => ⟨h.done, fun _ => by simp [hn], ?_⟩,
    Set.subset_union_left, fun _ => rfl, fun _ => ?_⟩
  · intro s entered he other rest' hn'
    obtain ⟨rfl, rfl⟩ := List.cons.inj (hn.symm.trans hn')
    cases hl : t.lookup? name with
    | none => simp [hl] at he
    | some r => simpa [hl] using (Stage.obtained.inj (by simpa [hl] using he)).1
  · cases hl : t.lookup? name <;> simp [hs, Stage.owed]

theorem moves_enter {rest : List String} (hn : w.names = name :: rest) (hs : w.stage = .absent) :
    Moves t w (t.enter name).2.2
      { w with stage := .obtained (t.enter name).1 (t.enter name).2.1 } := by
  have ht : (t.enter name).2.2.tracking = t.tracking ∧ (t.enter name).2.2.hits = t.hits ∧
      (t.enter name).2.2.misses = t.misses := by
    cases hl : t.lookup? name <;> simp [enter, hl, register]
  obtain ⟨htr, hh, hm⟩ := ht
  refine ⟨extends_enter t name, htr, rfl, fun hc h => ?_, ?_, fun _ => ?_, fun _ => ?_⟩
  · have h' := h.of_extends (extends_enter t name) hc
    refine ⟨h'.done, fun _ => by simp [hn], ?_⟩
    intro s entered he other rest' hn'
    obtain ⟨rfl, rfl⟩ := List.cons.inj (hn.symm.trans hn')
    obtain ⟨rfl, rfl⟩ := Stage.obtained.inj he
    exact lookup?_enter t name
  · refine (registered_enter t name).trans (Set.insert_subset ?_ Set.subset_union_left)
    exact Or.inr (by simp [Thread.calls, hn])
  · rw [hh, hm]
  · have hsz := size_enter t name
    cases he : (t.enter name).2.1 <;> simp [hm, hsz, hs, he, Stage.owed]
    omega

theorem moves_count {rest : List String} {entered : Bool} (hn : w.names = name :: rest)
    (hs : w.stage = .obtained s entered) :
    Moves t w (if entered then t.countMiss else t.countHit)
      ⟨rest, .ready, (name, s) :: w.done⟩ := by
  have hx : t.Extends (if entered then t.countMiss else t.countHit) := by
    split
    · exact extends_countMiss t
    · exact extends_countHit t
  have ht : (if entered then t.countMiss else t.countHit).tracking = t.tracking ∧
      (if entered then t.countMiss else t.countHit).entries = t.entries := by
    cases entered <;> simp
  refine ⟨hx, ht.1, ?_, fun hc h => ⟨?_, fun h' => absurd rfl h', fun _ _ he => by cases he⟩, ?_,
    fun htr => ?_, fun htr => ?_⟩
  · simp [Thread.calls, hn]
  · intro p hp
    rcases List.mem_cons.mp hp with rfl | hp
    · exact hx.lookup? hc (h.obtained s entered hs name rest hn)
    · exact hx.lookup? hc (h.done p hp)
  · intro other ho
    rw [mem_registered_iff, ht.2, ← mem_registered_iff] at ho
    exact Or.inl ho
  · cases entered <;> simp [countMiss, countHit, htr] <;> omega
  · cases entered <;> simp [hs, Stage.owed, countMiss, countHit, htr, size]

theorem moves_step (t : SymbolTable) (w : Thread) : Moves t w (w.step t).1 (w.step t).2 := by
  cases hn : w.names with
  | nil =>
    simp only [Thread.step, hn]
    exact moves_refl t w
  | cons name rest =>
    cases hs : w.stage with
    | ready =>
      have h := moves_lookup (t := t) hn hs
      cases hl : t.lookup? name <;> simpa only [Thread.step, hn, hs, hl, Option.elim] using h
    | absent =>
      simpa only [Thread.step, hn, hs] using moves_enter (t := t) hn hs
    | obtained s entered =>
      simpa only [Thread.step, hn, hs] using moves_count (t := t) hn hs

theorem exists_split {threads : List Thread} {i : Nat} (h : threads[i]? = some w) :
    ∃ before after, threads = before ++ w :: after ∧
      ∀ v, threads.set i v = before ++ v :: after := by
  obtain ⟨hi, hw⟩ := List.getElem?_eq_some_iff.mp h
  refine ⟨threads.take i, threads.drop (i + 1), ?_, fun v => ?_⟩
  · rw [← hw, ← List.drop_eq_getElem_cons hi, List.take_append_drop]
  · rw [List.set_eq_take_append_cons_drop, if_pos hi]

/-- A step of a state changes nothing, or it is a step of one thread. -/
theorem step_cases (s : State) (i : Nat) :
    s.step i = s ∨ ∃ before w after, s.threads = before ++ w :: after ∧
      s.step i = ⟨(w.step s.table).1, before ++ (w.step s.table).2 :: after⟩ := by
  cases h : s.threads[i]? with
  | none =>
    left
    simp only [State.step, h]
  | some w =>
    right
    obtain ⟨before, after, hs, hset⟩ := exists_split h
    refine ⟨before, w, after, hs, ?_⟩
    simp only [State.step, h, hset]

theorem extends_run (s : State) (schedule : List Nat) :
    s.table.Extends (s.run schedule).table := by
  induction schedule generalizing s with
  | nil => exact .refl _
  | cons i schedule ih =>
    refine Extends.trans ?_ (ih (s.step i))
    obtain he | ⟨before, w, after, -, he⟩ := step_cases s i
    · rw [he]
      exact .refl _
    · rw [he]
      exact (moves_step s.table w).grows

/-- What holds at every moment of a run of `work` that started on `t`. -/
structure Invariant (t : SymbolTable) (work : List (List String)) (s : State) : Prop where
  grows : t.Extends s.table
  tracking : s.table.tracking = t.tracking
  calls : s.threads.map Thread.calls = work
  settled : ∀ w ∈ s.threads, w.Settled s.table
  registered : s.table.registered ⊆ t.registered ∪ {name | ∃ names ∈ work, name ∈ names}
  total : t.tracking = true →
    s.table.hits + s.table.misses = t.hits + t.misses + (s.threads.map (·.done.length)).sum
  misses : t.tracking = true →
    s.table.misses + (s.threads.map (·.stage.owed)).sum + t.size = t.misses + s.table.size

variable {s : State}

theorem invariant_start (t : SymbolTable) (work : List (List String)) :
    Invariant t work (start t work) := by
  refine ⟨.refl t, rfl, ?_, ?_, Set.subset_union_left, fun _ => ?_, fun _ => ?_⟩
  · rw [start, List.map_map]
    exact List.map_id'' (fun _ => rfl) work
  · intro w hw
    obtain ⟨names, -, rfl⟩ := List.mem_map.mp hw
    exact ⟨fun _ h => absurd h (by simp [Thread.start]), fun h => absurd rfl h,
      fun _ _ h => by cases h⟩
  · simp [start, Function.comp_def, Thread.start]
  · simp [start, Function.comp_def, Thread.start, Stage.owed]

theorem Invariant.step (h : Invariant t work s) (ht : t.Canonical) (i : Nat) :
    Invariant t work (s.step i) := by
  obtain he | ⟨before, w, after, hs, he⟩ := step_cases s i
  · rw [he]
    exact h
  have hm := moves_step s.table w
  have hc := h.grows.canonical ht
  have hw := h.settled w (by rw [hs]; simp)
  obtain ⟨hg, htr, hcalls, hset, hreg, htot, hmiss⟩ := hm
  rw [he]
  refine ⟨h.grows.trans hg, htr.trans h.tracking, ?_, ?_, ?_, fun hon => ?_, fun hon => ?_⟩
  · rw [← h.calls, hs]
    simp [hcalls]
  · intro v hv
    rcases List.mem_append.mp hv with hv | hv
    · exact (h.settled v (by rw [hs]; exact List.mem_append_left _ hv)).of_extends hg hc
    · rcases List.mem_cons.mp hv with rfl | hv
      · exact hset hc hw
      · refine (h.settled v ?_).of_extends hg hc
        rw [hs]
        exact List.mem_append_right _ (List.mem_cons_of_mem _ hv)
  · intro name hn
    rcases hreg hn with hn | hn
    · exact h.registered hn
    · refine Or.inr ⟨w.calls, ?_, hn⟩
      rw [← h.calls, hs]
      simp
  · have h₁ := h.total hon
    have h₂ := htot (h.tracking.trans hon)
    rw [hs] at h₁
    simp only [List.map_append, List.map_cons, List.sum_append, List.sum_cons] at h₁ ⊢
    omega
  · have h₁ := h.misses hon
    have h₂ := hmiss (h.tracking.trans hon)
    rw [hs] at h₁
    simp only [List.map_append, List.map_cons, List.sum_append, List.sum_cons] at h₁ ⊢
    omega

theorem Invariant.run (h : Invariant t work s) (ht : t.Canonical) (schedule : List Nat) :
    Invariant t work (s.run schedule) := by
  induction schedule generalizing s with
  | nil => exact h
  | cons i schedule ih => exact ih (h.step ht i)

theorem Invariant.names_nil (h : s.isDone = true) (hw : w ∈ s.threads) : w.names = [] :=
  List.isEmpty_iff.mp (List.all_eq_true.mp h w hw)

theorem Invariant.done_eq (h : Invariant t work s) (hd : s.isDone = true) :
    s.threads.map (fun w => w.done.reverse.map Prod.fst) = work := by
  rw [← h.calls]
  refine List.map_congr_left fun w hw => ?_
  rw [Thread.calls, names_nil hd hw, List.append_nil]

theorem Invariant.registered_eq (h : Invariant t work s) (hd : s.isDone = true) :
    s.table.registered = t.registered ∪ {name | ∃ names ∈ work, name ∈ names} := by
  refine Set.Subset.antisymm h.registered (Set.union_subset h.grows.registered_subset ?_)
  rintro name ⟨names, hn, hm⟩
  rw [← h.done_eq hd] at hn
  obtain ⟨w, hw, rfl⟩ := List.mem_map.mp hn
  obtain ⟨p, hp, rfl⟩ := List.mem_map.mp hm
  have hl := (h.settled w hw).done p (List.mem_reverse.mp hp)
  exact Option.isSome_iff_exists.mpr ⟨p.2, hl⟩

theorem Invariant.misses_eq (h : Invariant t work s) (ht : t.Canonical) (hd : s.isDone = true)
    (hon : t.tracking = true) :
    s.table.misses = t.misses + (s.table.registered \ t.registered).ncard := by
  have ho : (s.threads.map (·.stage.owed)).sum = 0 := by
    refine List.sum_eq_zero fun k hk => ?_
    obtain ⟨w, hw, rfl⟩ := List.mem_map.mp hk
    have hr : w.stage = .ready := by
      by_contra hb
      exact (h.settled w hw).busy hb (names_nil hd hw)
    simp only [hr, Stage.owed]
  have hm := h.misses hon
  have hs := h.grows.size_eq ht
  omega

theorem Invariant.total_eq (h : Invariant t work s) (hd : s.isDone = true)
    (hon : t.tracking = true) :
    s.table.hits + s.table.misses = t.hits + t.misses + (work.map List.length).sum := by
  rw [h.total hon, ← h.done_eq hd, List.map_map]
  congr 2
  exact List.map_congr_left fun w _ => by simp

def Stage.taken : Stage → Nat
  | .ready => 0
  | .absent => 1
  | .obtained .. => 2

def Thread.left (w : Thread) : Nat := 3 * w.names.length - w.stage.taken

theorem left_step_lt (t : SymbolTable) (h : w.names ≠ []) : (w.step t).2.left < w.left := by
  obtain ⟨name, rest, hn⟩ := List.exists_cons_of_ne_nil h
  cases hs : w.stage with
  | ready =>
    cases hl : t.lookup? name <;> simp [Thread.step, Thread.left, hn, hs, hl, Stage.taken]
  | absent =>
    simp [Thread.step, Thread.left, hn, hs, Stage.taken]
    omega
  | obtained r entered =>
    simp [Thread.step, Thread.left, hn, hs, Stage.taken]
    omega

theorem exists_isDone (s : State) : ∃ schedule, (s.run schedule).isDone = true := by
  by_cases hd : s.isDone = true
  · exact ⟨[], hd⟩
  obtain ⟨w, hw, hn⟩ : ∃ w ∈ s.threads, w.names ≠ [] := by
    simpa [State.isDone] using hd
  obtain ⟨i, hi⟩ := List.mem_iff_getElem?.mp hw
  obtain ⟨before, after, hs, hset⟩ := exists_split hi
  have hstep : (s.step i).threads = before ++ (w.step s.table).2 :: after := by
    simp only [State.step, hi, hset]
  have hlt : ((s.step i).threads.map Thread.left).sum < (s.threads.map Thread.left).sum := by
    have := left_step_lt s.table hn
    rw [hstep, hs]
    simp only [List.map_append, List.map_cons, List.sum_append, List.sum_cons]
    omega
  obtain ⟨schedule, h⟩ := exists_isDone (s.step i)
  exact ⟨i :: schedule, h⟩
termination_by (s.threads.map Thread.left).sum

/-- The steps of a thread that is alone come to the same as interning. -/
theorem run_alone (t : SymbolTable) (name : String) : ∃ k,
    (start t [[name]]).run (List.replicate k 0) =
      ⟨(t.intern name).2, [⟨[], .ready, [(name, (t.intern name).1)]⟩]⟩ := by
  cases h : t.lookup? name with
  | some s =>
    refine ⟨2, ?_⟩
    simp [State.run, State.step, start, Thread.start, Thread.step, h, SymbolTable.intern]
  | none =>
    refine ⟨3, ?_⟩
    simp [State.run, State.step, start, Thread.start, Thread.step, h, SymbolTable.intern, enter]

end Interleaving

/-- The tables that a program can come to hold: new ones, and what calls and threads make of
them. -/
inductive SymbolTable.Reachable : SymbolTable → Prop
  | empty (tag : Nat) : Reachable (.empty tag)
  | known (tag : Nat) : Reachable (.known tag)
  | intern {t : SymbolTable} (h : Reachable t) (name : String) : Reachable (t.intern name).2
  | setTracking {t : SymbolTable} (h : Reachable t) (on : Bool) : Reachable (t.setTracking on)
  | threads {t : SymbolTable} (h : Reachable t) (work : List (List String)) (schedule : List Nat) :
      Reachable ((Interleaving.start t work).run schedule).table

theorem SymbolTable.canonical_of_reachable (h : t.Reachable) : t.Canonical := by
  induction h with
  | empty tag => exact canonical_empty tag
  | known tag => exact canonical_known tag
  | intern _ name ih => exact (extends_intern _ name).canonical ih
  | setTracking _ on ih => exact (extends_setTracking _ on).canonical ih
  | threads _ work schedule ih =>
    exact ((Interleaving.invariant_start _ work).run ih schedule).grows.canonical ih

namespace Interleaving

/-- What threads that make the calls `work` on the table `t` agree on at two moments, the second one
later. -/
structure Agreement (t : SymbolTable) (work : List (List String)) (early late : State) : Prop where
  names_nodup : (early.table.entries.map Prod.fst).Nodup
  /-- A symbol that is there is never replaced. -/
  stays : ∀ name s, t.lookup? name = some s ∨ early.table.lookup? name = some s →
    late.table.lookup? name = some s
  answered : ∀ w ∈ early.threads, ∀ p ∈ w.done, early.table.lookup? p.1 = some p.2
  /-- Calls with equal names have one answer, and calls with different names have two. -/
  agree : ∀ v ∈ early.threads, ∀ w ∈ late.threads, ∀ p ∈ v.done, ∀ q ∈ w.done,
    (p.1 = q.1 → p.2 = q.2) ∧ (p.2.same q.2 = true → p.1 = q.1)
  finishes : ∃ schedule, (early.run schedule).isDone = true
  calls : early.isDone = true → early.threads.map (fun w => w.done.reverse.map Prod.fst) = work
  registered : early.isDone = true →
    early.table.registered = t.registered ∪ {name | ∃ names ∈ work, name ∈ names}
  /-- One miss for each new name. -/
  misses : early.isDone = true → t.tracking = true →
    early.table.misses = t.misses + (early.table.registered \ t.registered).ncard
  /-- One count for each call. -/
  total : early.isDone = true → t.tracking = true →
    early.table.hits + early.table.misses = t.hits + t.misses + (work.map List.length).sum

theorem agreement_run (ht : t.Reachable) (work : List (List String)) (schedule later : List Nat) :
    Agreement t work ((start t work).run schedule) (((start t work).run schedule).run later) := by
  have hc := canonical_of_reachable ht
  have he := (invariant_start t work).run hc schedule
  have hl := he.run hc later
  have hce := he.grows.canonical hc
  have hcl := hl.grows.canonical hc
  have hg := extends_run ((start t work).run schedule) later
  refine
    { names_nodup := hce.names_nodup
      stays := ?_
      answered := fun w hw => (he.settled w hw).done
      agree := ?_
      finishes := exists_isDone _
      calls := he.done_eq
      registered := he.registered_eq
      misses := he.misses_eq hc
      total := he.total_eq }
  · rintro name s (h | h)
    · exact hl.grows.lookup? hc h
    · exact hg.lookup? hce h
  · intro v hv w hw p hp q hq
    have hlp := hg.lookup? hce ((he.settled v hv).done p hp)
    have hlq := (hl.settled w hw).done q hq
    refine ⟨fun hn => ?_, fun hs => ?_⟩
    · rw [hn] at hlp
      exact Option.some.inj (hlp.symm.trans hlq)
    · have hp' := List.mem_map_of_mem (f := Prod.snd) (mem_entries_of_lookup? hlp)
      have hq' := List.mem_map_of_mem (f := Prod.snd) (mem_entries_of_lookup? hlq)
      have hn := (hcl.same_iff hp' hq').mp hs
      rw [← hcl.name_of_lookup? hlp, ← hcl.name_of_lookup? hlq, hn]

/-- Three threads, all of which find the name `b` absent before one of them enters it. -/
theorem agreement_run_racing :
    let t := ((SymbolTable.empty 0).intern "a").2
    let s := (start t [["a", "b"], ["b"], ["b", "c"]]).run
      [0, 0, 0, 1, 2, 2, 1, 0, 0, 1, 2, 2, 2, 2]
    t.Reachable ∧ Agreement t [["a", "b"], ["b"], ["b", "c"]] s (s.run []) ∧ s.isDone = true ∧
      t.tracking = true ∧ s.table.misses = 3 ∧ s.table.hits = 3 := by
  have ht : ((SymbolTable.empty 0).intern "a").2.Reachable := .intern (.empty 0) "a"
  exact ⟨ht, agreement_run ht _ _ [], by decide, by decide, by decide, by decide⟩

end Interleaving

end LateBinding
