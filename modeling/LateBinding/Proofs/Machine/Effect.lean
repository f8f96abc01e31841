import LateBinding.Proofs.Machine.Message
import LateBinding.Session

/-! # What a send changes

Old contents stay as they are but for three messages that write in their receiver: adding to an
array, storing in a hash, and writing a field of an object. Strings and symbols that look for a
regexp set the register of the last match, and nothing else does.
-/

namespace LateBinding

open Eval

variable {m m' : Machine} {host : Host} {send : Sender} {n : ℕ} {receiver : Value} {name : String}
  {args : Args} {s : Symbol} {may : Prop}

namespace Machine

/-- What becomes of a machine that has the built-in methods only: its methods and all contents stay,
and so does the register of the last match unless it may be set. -/
structure Steady (may : Prop) (m m' : Machine) : Prop where
  keeps : m.Extends m'
  grows : m.heap.Grows m'.heap
  register : may ∨ m'.lastMatch = m.lastMatch

theorem Steady.refl (m : Machine) : Steady may m m := ⟨Frame.refl m, .refl _, .inr rfl⟩

theorem Steady.trans {l m n : Machine} (h : Steady may l m) (h' : Steady may m n) :
    Steady may l n := by
  refine ⟨Frame.trans h.keeps h'.keeps, h.grows.trans h'.grows, ?_⟩
  rcases h.register with hmay | hsame
  · exact .inl hmay
  · exact h'.register.imp_right fun h => h.trans hsame

end Machine

def Contract.steady (may : Prop) : Contract :=
  ⟨(·.Defines Builtin.definitions), fun _ => True, Machine.Steady may, fun _ => True⟩

instance : (Contract.steady may).Lawful where
  refl := Machine.Steady.refl
  trans := Machine.Steady.trans
  keep hm h := hm.extends h.keeps
  contents _ := ⟨fun _ _ _ _ => trivial, fun _ _ _ _ => ⟨trivial, trivial⟩, fun _ _ _ _ => trivial⟩
  made _ := trivial
  sound := .inl trivial
  symbols name _ := ⟨Frame.symbols _ name, .refl _, .inr rfl⟩
  heap _ hg _ _ := ⟨Frame.heap _ _, hg, .inr rfl⟩
  users i _ := ⟨Frame.users _ i, .refl _, .inr rfl⟩
  groups i _ := ⟨Frame.groups _ i, .refl _, .inr rfl⟩

theorem Contract.sends_steady (host : Host) (n : ℕ) (may : Prop) :
    (steady may).Sends (sendWithin host n) :=
  sends_sendWithin (fun _ hm => hm) (.inl trivial)

theorem Contract.maySet_steady (hmay : may) : (steady may).MaySet :=
  fun m v _ _ => ⟨Frame.register m v, .refl _, .inl hmay⟩

def MayMatch (receiver : Value) (name : String) (args : Args) : Prop :=
  ((∃ s, receiver = .string s) ∨ ∃ s, receiver = .symbol s) ∧
    name ∈ ["[]", "slice", "=~", "start_with?"] ∧ ∃ r, Value.regexp r ∈ args.items

/-- What a message writes in its receiver: items behind the last one of an array, an entry of a
hash, or a field of an object. -/
inductive Heap.Writes (h : Heap) : Value → String → Args → Heap → Prop
  | push {r : ℕ} {name : String} {args : Args} (hname : name = "push" ∨ name = "<<") :
    Writes h (.array r) name args (h.setArray r (h.array r ++ args.items))
  | store {r : ℕ} {key v : Value} {keywords : Bool} {entries : List (Value × Value)}
      (hstored : h.stored? r key v = some entries) :
    Writes h (.hash r) "[]=" ⟨[key, v], keywords⟩ (h.setHash r entries)
  | assign {o : Object} {s : Symbol} {v : Value} {keywords : Bool} (hne : s.name ≠ "") :
    Writes h (.object o) (s.name ++ "=") ⟨[v], keywords⟩ (h.setField o s v)

namespace HashMethod

variable {r : ℕ} {key v : Value} {entries : List (Value × Value)}

theorem run_set_eq (r : ℕ) (key v : Value) (keywords : Bool) (m : Machine) :
    set.run (.hash r) ⟨[key, v], keywords⟩ m =
      (orEndless (m.heap.stored? r key v) >>= fun entries => do
      setHeap (·.setHash r entries)
      return v) m := rfl

theorem run_set (h : m.heap.stored? r key v = some entries) (keywords : Bool) :
    set.run (.hash r) ⟨[key, v], keywords⟩ m =
      .ok v { m with heap := m.heap.setHash r entries } := by
  rw [run_set_eq, h]
  rfl

theorem run_set_endless (h : m.heap.stored? r key v = none) (keywords : Bool) :
    set.run (.hash r) ⟨[key, v], keywords⟩ m = .error .endless m := by
  rw [run_set_eq, h]
  rfl

end HashMethod

namespace Machine

theorem name_of_isSearch : ∀ e ∈ Builtin.all, e.2.2.isSearch = true →
    e.2.1 ∈ ["[]", "slice", "=~", "start_with?"] := by decide

theorem name_of_push : ∀ e ∈ Builtin.all, e.2.2 = .array .push → e.2.1 = "push" ∨ e.2.1 = "<<" := by
  decide

theorem name_of_store : ∀ e ∈ Builtin.all, e.2.2 = .hash .set → e.2.1 = "[]=" := by decide

/-- A send either writes in its receiver and answers, or changes no old contents at all. -/
def Effect (m : Machine) (receiver : Value) (name : String) (args : Args) (x : Eval Value) : Prop :=
  Steady (MayMatch receiver name args) m (x.after m) ∨
    ∃ v m', x m = .ok v m' ∧ m.Extends m' ∧ m.heap.Writes receiver name args m'.heap ∧
      m'.lastMatch = m.lastMatch

theorem effect_of_after {x : Eval Value} (h : x.after m = m) : m.Effect receiver name args x :=
  .inl (h.symm ▸ Steady.refl m)

/-- An effect may be looked for in a machine that only got new symbols. -/
theorem Effect.of_extends {x y : Eval Value} (hext : m.Extends m') (hheap : m'.heap = m.heap)
    (hregister : m'.lastMatch = m.lastMatch) (he : m'.Effect receiver name args y)
    (hxy : x m = y m') : m.Effect receiver name args x := by
  have hafter : x.after m = y.after m' := by
    unfold after
    rw [hxy]
  rcases he with hsteady | ⟨v, m'', hy, hext', hwrites, hregister'⟩
  · left
    rw [hafter]
    exact Steady.trans ⟨hext, hheap ▸ .refl _, .inr hregister⟩ hsteady
  · right
    refine ⟨v, m'', hxy.trans hy, Frame.trans hext hext', ?_, hregister'.trans hregister⟩
    rw [← hheap]
    exact hwrites

theorem effect_store (hname : name = "[]=") (r : ℕ) (args : Args) :
    m.Effect (.hash r) name args (HashMethod.set.run (.hash r) args) := by
  subst hname
  obtain ⟨items, keywords⟩ := args
  rcases items with _ | ⟨key, _ | ⟨v, _ | ⟨w, rest⟩⟩⟩
  · exact .inl (Steady.refl m)
  · exact .inl (Steady.refl m)
  · cases hstored : m.heap.stored? r key v with
    | some entries =>
      exact .inr ⟨v, _, HashMethod.run_set hstored keywords, Frame.heap m _, .store hstored, rfl⟩
    | none => exact effect_of_after (after_of_error (HashMethod.run_set_endless hstored keywords))
  · exact .inl (Steady.refl m)

theorem effect_run {cls : String} {b : Builtin} (hmem : (cls, name, b) ∈ Builtin.all)
    (hproc : ∀ p, receiver ≠ .proc p) (hsend : ∀ may, (Contract.steady may).Sends send)
    (hd : m.Defines Builtin.definitions) :
    m.Effect receiver name args (b.run host send receiver args) := by
  by_cases hpush : b = .array .push ∧ ∃ r, receiver = .array r
  · obtain ⟨rfl, r, rfl⟩ := hpush
    have hname := name_of_push _ hmem rfl
    exact .inr ⟨.array r, _, rfl, Frame.heap m _, .push hname, rfl⟩
  by_cases hstore : b = .hash .set ∧ ∃ r, receiver = .hash r
  · obtain ⟨rfl, r, rfl⟩ := hstore
    exact effect_store (name_of_store _ hmem rfl) r args
  have hpermits : b.Permits (.steady (MayMatch receiver name args)) host send receiver args := by
    refine ⟨fun hsearch htext r hr => ?_, ?_, ?_, ?_, ?_, fun _ => .inl trivial,
      fun _ => .inl trivial⟩
    · have hreceiver : (∃ s, receiver = .string s) ∨ ∃ s, receiver = .symbol s := by
        cases receiver <;> simp [Value.isText] at htext ⊢
      exact Contract.maySet_steady ⟨hreceiver, name_of_isSearch _ hmem hsearch, r, hr⟩
    · exact fun _ s _ m _ => ⟨Frame.heap m _, m.heap.grows_nameString s, .inr rfl⟩
    · exact fun hb r hr => absurd ⟨hb, r, hr⟩ hpush
    · exact fun hb r hr => absurd ⟨hb, r, hr⟩ hstore
    · exact fun _ p hp => absurd hp (hproc p)
  exact .inl ((hpermits.meets_run (hsend _) trivial fun _ _ => trivial).step_after hd)

theorem effect_withoutMethod (hd : m.Defines Builtin.definitions) (receiver : Value) (s : Symbol)
    (args : Args) : m.Effect receiver s.name args (withoutMethod receiver s args) := by
  cases receiver with
  | object o =>
    change m.Effect _ _ _ (accessField o s args)
    cases hfield : m.heap.field? o s with
    | some v =>
      refine effect_of_after ?_
      unfold after
      rw [accessField_of_field hfield]
      by_cases hnone : args.size = 0 <;> simp [hnone]
    | none =>
      cases hwritten : writtenField? s.name with
      | none =>
        exact effect_of_after (after_of_error (accessField_of_missing hfield hwritten))
      | some field =>
        obtain ⟨hne, hname⟩ := writtenField?_eq_some_iff.mp hwritten
        have hrun := @accessField_of_written m args o s field hfield hwritten
        obtain ⟨items, keywords⟩ := args
        rcases items with _ | ⟨v, _ | ⟨w, rest⟩⟩
        · exact effect_of_after (after_of_error hrun)
        · have hsname := (hd.symbol_of_intern field).1
          have hwrites : m.heap.Writes (.object o) ((m.symbols.intern field).1.name ++ "=")
              ⟨[v], keywords⟩ (m.heap.setField o (m.symbols.intern field).1 v) :=
            .assign (hsname.trans_ne hne)
          rw [hsname, ← hname] at hwrites
          exact .inr ⟨v, _, hrun, ⟨rfl, rfl, m.symbols.extends_intern field⟩, hwrites, rfl⟩
        · exact effect_of_after (after_of_error hrun)
  | _ => exact .inl (Steady.refl m)

theorem effect_dispatch (hd : m.Defines Builtin.definitions) (hs : m.Genuine s)
    (hproc : ∀ p, receiver ≠ .proc p) (hsend : ∀ may, (Contract.steady may).Sends send) :
    m.Effect receiver s.name args (dispatch host send receiver s args) := by
  obtain ⟨found, hfind, hdefined, -⟩ := hd.exists_findMethod hs receiver
  have hext : m.Extends ((classOf receiver).after m) := keeps_classOf receiver m
  have hd' := hd.extends hext
  have hframe : ((classOf receiver).after m).heap = m.heap ∧
      ((classOf receiver).after m).lastMatch = m.lastMatch := by cases receiver <;> exact ⟨rfl, rfl⟩
  refine Effect.of_extends hext hframe.1 hframe.2 ?_ (dispatch_of_findMethod hfind)
  cases found with
  | none => exact effect_withoutMethod hd' receiver s args
  | some method =>
    obtain ⟨cls, hmem⟩ := hdefined method rfl
    obtain ⟨b, rfl, hall⟩ := Builtin.mem_all_of_definition hmem
    exact effect_run hall hproc hsend hd'

theorem effect_sendWithin (hd : m.Defines Builtin.definitions) (hs : m.Genuine s)
    (hproc : ∀ p, receiver ≠ .proc p) :
    m.Effect receiver s.name args (sendWithin host n receiver s args) := by
  cases n with
  | zero => exact .inl (Steady.refl m)
  | succ n => exact effect_dispatch hd hs hproc fun may => Contract.sends_steady host n may

theorem effect_byName (hd : m.Defines Builtin.definitions) (name : String)
    (hproc : ∀ p, receiver ≠ .proc p) :
    m.Effect receiver name args ((sendWithin host n).byName receiver name args) := by
  obtain ⟨hsname, hsmem⟩ := hd.symbol_of_intern name
  have hext : m.Extends ((intern name).after m) := keeps_intern name m
  have he : ((intern name).after m).Effect receiver (m.symbols.intern name).1.name args
      (sendWithin host n receiver (m.symbols.intern name).1 args) :=
    effect_sendWithin (hd.extends hext) (.inl hsmem) hproc
  rw [hsname] at he
  exact he.of_extends hext rfl rfl rfl

end Machine

namespace Session

/-- What a send in an environment leaves as it is: old contents but for what it writes in its
receiver, all of them when it fails, and the registers but for that of the environment when it may
look for a regexp. -/
structure Framed (s : Session) (env : ℕ) (receiver : Value) (name : String) (args : Args)
    (outcome : Except Fault Value × Session) : Prop where
  answered : ∀ v, outcome.1 = .ok v → s.machine.heap.Grows outcome.2.machine.heap ∨
    s.machine.heap.Writes receiver name args outcome.2.machine.heap
  failed : ∀ e, outcome.1 = .error e → s.machine.heap.Grows outcome.2.machine.heap
  register : ∀ i, outcome.2.register i ≠ s.register i → i = env ∧ MayMatch receiver name args

variable {session : Session} {env : ℕ}

def entered (s : Session) (env : ℕ) : Machine := { s.machine with lastMatch := s.register env }

theorem run_of_ok {α : Type} {x : Eval α} {a : α} (hx : x (session.entered env) = .ok a m') :
    session.run env x = (.ok a, ⟨m', session.registers.set env m'.lastMatch⟩) := by
  unfold run entered at *
  rw [hx]

theorem run_of_error {α : Type} {x : Eval α} {e : Fault}
    (hx : x (session.entered env) = .error e m') :
    session.run env x = (.error e, ⟨m', session.registers.set env m'.lastMatch⟩) := by
  unfold run entered at *
  rw [hx]

theorem eq_of_register_ne {m : Machine} {v : Value} (hv : may ∨ v = session.register env) {i : ℕ}
    (hi : Session.register ⟨m, session.registers.set env v⟩ i ≠ session.register i) :
    i = env ∧ may := by
  unfold register at hi hv
  by_cases henv : i = env
  · subst henv
    refine ⟨rfl, hv.resolve_right fun hv => hi ?_⟩
    rw [List.getElem?_set_self', hv]
    cases session.registers[i]? <;> rfl
  · rw [List.getElem?_set_ne (Ne.symm henv)] at hi
    exact absurd rfl hi

theorem framed_of_effect {x : Eval Value} (hd : session.machine.Defines Builtin.definitions)
    (he : (session.entered env).Effect receiver name args x) :
    session.Framed env receiver name args (session.run env x) := by
  have hd' : (session.entered env).Defines Builtin.definitions := hd.extends (Frame.register _ _)
  rcases he with ⟨-, hgrows, hset⟩ | ⟨v, m', hx, -, hwrites, hregister⟩
  · cases hx : x (session.entered env) with
    | ok v m' =>
      rw [after_of_ok hx] at hgrows hset
      rw [run_of_ok hx]
      exact ⟨fun _ _ => .inl hgrows, fun _ h => (nomatch h), fun _ => eq_of_register_ne hset⟩
    | error e m' =>
      rw [after_of_error hx] at hgrows hset
      rw [run_of_error hx]
      exact ⟨fun _ h => (nomatch h), fun _ _ => hgrows, fun _ => eq_of_register_ne hset⟩
  · rw [run_of_ok hx]
    exact ⟨fun _ _ => .inr hwrites, fun _ h => (nomatch h),
      fun _ => eq_of_register_ne (.inr hregister)⟩

/-- With the built-in methods only, sends to anything but procs are framed, by the text of a message
or by a symbol, whatever ran before. -/
theorem send_framed (c : Config) {host : Host} (hh : host.Keeps Machine.Extends) {m₀ : Machine}
    (hm₀ : Machine.ofConfig c = .ok m₀) {session : Session}
    (hr : Machine.Run host m₀ session.machine []) (env : ℕ) {receiver : Value}
    (hproc : ∀ p, receiver ≠ .proc p) (args : Args) (n : ℕ) :
    (∀ name, session.Framed env receiver name args
        (session.run env ((sendWithin host n).byName receiver name args))) ∧
      ∀ s, session.machine.Genuine s → session.Framed env receiver s.name args
        (session.run env (sendWithin host n receiver s args)) := by
  have hd : session.machine.Defines Builtin.definitions := by
    simpa using (Machine.defines_ofConfig hm₀).run hh hr
  have hd' : (session.entered env).Defines Builtin.definitions := hd.extends (Frame.register _ _)
  exact ⟨fun name => framed_of_effect hd (Machine.effect_byName hd' name hproc),
    fun s hs => framed_of_effect hd (Machine.effect_sendWithin hd' hs hproc)⟩

def paired (m : Machine) : Session := ⟨{ m with heap := (m.heap.newArray [.nil]).2 }, [.nil, .nil]⟩

theorem send_framed_push :
    Host.idle.Keeps Machine.Extends ∧ ∃ m₀, Machine.ofConfig .standard = .ok m₀ ∧
      let outcome := (paired m₀).run 0
        ((sendWithin .idle 1).byName (.array 0) "push" (.positional [.bool true]))
      outcome.1 = .ok (.array 0) ∧
        (paired m₀).Framed 0 (.array 0) "push" (.positional [.bool true]) outcome := by
  obtain ⟨m₀, hm₀⟩ : ∃ m₀, Machine.ofConfig .standard = .ok m₀ := ⟨_, rfl⟩
  have hr : Machine.Run .idle m₀ (paired m₀).machine [] :=
    .outside (m₀.heap.newArray [.nil]).2 m₀.lastMatch .start
  refine ⟨Host.keeps_idle, m₀, hm₀, ?_,
    (send_framed .standard Host.keeps_idle hm₀ hr 0 (by simp) _ 1).1 "push"⟩
  have hd : ((paired m₀).entered 0).Defines Builtin.definitions :=
    (Machine.defines_ofConfig hm₀).extends ⟨rfl, rfl, .refl _⟩
  have hpush : lastDefined Builtin.definitions "Array" "push" = some (.builtin (.array .push)) := by
    decide
  have hreply : Machine.reply .idle 0 (.array 0) "push" (.positional [.bool true])
      ((paired m₀).entered 0) = _ := hd.reply_eq trivial
  rw [show (Value.array 0).className = "Array" from rfl, hpush] at hreply
  exact congrArg Prod.fst (run_of_ok hreply)

end Session

end LateBinding
