import LateBinding.Proofs.Machine.Calling
import LateBinding.Proofs.Machine.Safety
import LateBinding.Proofs.Method.Likeness
import LateBinding.Proofs.Method.Sending

/-! # Calling the procs of symbols

The proc of a symbol sends it to the first argument, with the others. The receiver may be such a
proc again, even the same one, and the message its call. Every call leaves one argument less, so
that with the built-in methods only there are no more of them than arguments, and then a method that
sends no further than once.
-/

namespace LateBinding

open Eval

variable {m m' : Machine} {host host' : Host} {send send' : Sender} {k n : ℕ} {p : Proc}
  {receiver : Value} {args : Args} {s : Symbol} {ds : List Definition}

theorem Args.keyword?_rest (args : Args) (h : Heap) (name : Symbol) :
    args.rest.keyword? h name = if args.size ≤ 1 then none else args.keyword? h name := by
  obtain ⟨items, keywords⟩ := args
  cases keywords <;> rcases items with _ | ⟨v, _ | ⟨w, items⟩⟩ <;> simp [keyword?, rest, size]

/-- A call of the proc of a symbol comes to this. Without arguments it is refused, and nothing
changes; otherwise the first one is sent the symbol with the others. -/
structure Forwards (host : Host) (send : Sender) (p : Proc) (s : Symbol) (args : Args) (m : Machine)
    (outcome : EStateM.Result Fault Machine Value) : Prop where
  called : outcome = callProc host send p args m
  refused : args.items = [] → outcome = .error (.error (.arity 0 (.atLeast 1))) m
  sent : ∀ receiver others, args.items = receiver :: others → outcome = send receiver s args.rest m

namespace Eval

theorem forwards_callProc (hp : p.body = .send s) (host : Host) (send : Sender) (args : Args)
    (m : Machine) : Forwards host send p s args m (callProc host send p args m) where
  called := rfl
  refused h := by
    rw [callProc_of_nil hp h]
    rfl
  sent receiver others h := by rw [callProc_of_cons hp h]

end Eval

def Host.only (system : OperatingSystem) (beyond : Eval Value) : Host where
  system := system
  method _ _ _ _ := beyond
  block _ _ _ := beyond
  stack := 0

/-- The proc that a message calls, when this method is found for it. -/
def Method.called? : Option Method → Value → Option Proc
  | some (.builtin (.proc .call)), .proc p => some p
  | _, _ => none

namespace Eval

/-- One send. The call of a proc is left to the last parameter. -/
def dispatchCalling (host : Host) (again : Sender) (call : Proc → Args → Eval Value) : Sender :=
  fun receiver name args => do
    let found ← findMethod receiver name
    match Method.called? found receiver with
    | some p => call p args
    | none => Machine.answer host again receiver name args found

/-- Sends in which at most so many procs are called, one in the call of another, and in which no
other method sends further than once. Whatever would go beyond, native code as well, does the same,
whatever it is. -/
def sendCalling (system : OperatingSystem) (beyond : Eval Value) : ℕ → Sender
  | 0 => dispatchCalling (.only system beyond) (sendOnce system beyond) fun _ _ => beyond
  | calls + 1 =>
    dispatchCalling (.only system beyond) (sendOnce system beyond)
      (callProc (.only system beyond) (sendCalling system beyond calls))
where
  sendOnce (system : OperatingSystem) (beyond : Eval Value) : Sender :=
    dispatchCalling (.only system beyond) (fun _ _ _ => beyond) fun _ _ => beyond

end Eval

theorem Method.called?_eq_some_iff {found : Option Method} :
    called? found receiver = some p ↔ found = some (.builtin (.proc .call)) ∧
    receiver = .proc p := by
  unfold called?
  split
  · simp
  · next hne =>
    simp only [reduceCtorEq, false_iff, not_and]
    exact fun hfound hreceiver => hne p hfound hreceiver

namespace Eval

theorem sendWithin_succ (host : Host) (n : ℕ) :
    sendWithin host (n + 1) = dispatchCalling host (sendWithin host n)
      (callProc host (sendWithin host n)) := by
  funext receiver name args
  change dispatch host (sendWithin host n) receiver name args = _
  unfold dispatch dispatchCalling
  refine bind_congr fun found => ?_
  cases hcalled : Method.called? found receiver with
  | some p =>
    obtain ⟨rfl, rfl⟩ := Method.called?_eq_some_iff.mp hcalled
    rfl
  | none =>
    cases found with
    | some method => rfl
    | none => cases receiver <;> rfl

section

variable {call call' : Proc → Args → Eval Value}

def Leaves (found : Option Method) : Prop :=
  ∀ method ∈ found, ∃ b : Builtin, method = .builtin b ∧ b.isLeaf = true

theorem Leaves.answer_eq {found : Option Method} (h : Leaves found)
    (hsystem : host.system = host'.system) :
    Machine.answer host send receiver s args found =
      Machine.answer host' send' receiver s args found := by
  cases found with
  | none => rfl
  | some method =>
    obtain ⟨b, rfl, hb⟩ := h _ rfl
    have hcall : b = .proc .call → ∀ p, receiver ≠ .proc p := by
      rintro rfl
      cases hb
    change b.run host send receiver args = b.run host' send' receiver args
    rw [b.run_of_isLeaf hb send send', Builtin.run_eq_of_system hsystem hcall]

theorem Leaves.called?_eq {found : Option Method} (h : Leaves found) :
    Method.called? found receiver = none := by
  rw [Option.eq_none_iff_forall_ne_some]
  intro p hp
  obtain ⟨rfl, rfl⟩ := Method.called?_eq_some_iff.mp hp
  obtain ⟨b, hb, hleaf⟩ := h _ rfl
  cases hb
  cases hleaf

theorem Leaves.dispatchCalling_eq {found : Option Method} (h : Leaves found)
    (hsystem : host.system = host'.system) (hfind : findMethod receiver s m = .ok found m') :
    dispatchCalling host send call receiver s args m =
      dispatchCalling host' send' call' receiver s args m := by
  unfold dispatchCalling
  rw [bind_of_ok hfind, bind_of_ok hfind, h.called?_eq]
  exact congrFun (h.answer_eq hsystem) m'

/-- One send is enough for the messages from inside methods. -/
theorem same_dispatchCalling (hsystem : host.system = host'.system)
    (hkeeps : (Contract.steady True).Sends (dispatchCalling host send call)) :
    (dispatchCalling host send call).Same (dispatchCalling host' send' call') where
  convert v name hname args m hd := by
    obtain ⟨hsname, hsmem⟩ := hd.symbol_of_intern name
    have hd' := hd.extends (keeps_intern name m)
    obtain ⟨found, hfind, hdefined, -⟩ := hd'.exists_findMethod (.inl hsmem) v
    have hleaves : Leaves found := by
      intro method hmethod
      obtain ⟨cls, hmem⟩ := hdefined method hmethod
      obtain ⟨b, rfl, hall⟩ := Builtin.mem_all_of_definition hmem
      exact ⟨b, rfl, Builtin.isLeaf_of_conversion _ hall (hsname.symm ▸ hname)⟩
    exact hleaves.dispatchCalling_eq hsystem hfind
  derive t name hname args m hd := by
    obtain ⟨b, hb, hleaf⟩ := Builtin.isLeaf_of_derivation name hname
    have hfind : findMethod (.string t) (m.symbols.intern name).1 ((intern name).after m) = _ :=
      hd.findMethod_eq trivial
    rw [show (Value.string t).className = "String" from rfl, hb, Option.some_or] at hfind
    have hleaves : Leaves (some (.builtin b)) := by
      rintro _ ⟨⟩
      exact ⟨b, rfl, hleaf⟩
    exact hleaves.dispatchCalling_eq hsystem hfind
  keeps := hkeeps

/-- With the built-in methods only, a send comes to the same when its method, or the proc that it
calls, does. -/
theorem same_send (hsystem : host.system = host'.system) (h : send.Same send')
    (hcall : ∀ p, receiver = .proc p → Same (call p args) (call' p args)) :
    Same (dispatchCalling host send call receiver s args)
      (dispatchCalling host' send' call' receiver s args) := by
  refine Same.bind_right (meets_findMethod receiver s) fun found hfound => ?_
  cases hcalled : Method.called? found receiver with
  | some p => exact hcall p (Method.called?_eq_some_iff.mp hcalled).2
  | none =>
    cases found with
    | none => exact .refl _
    | some method =>
      obtain ⟨m, hm, c, s', hget⟩ := hfound method rfl
      obtain ⟨b, rfl⟩ := hm.exists_builtin hget
      have hb : b = .proc .call → ∀ p, receiver ≠ .proc p := by
        rintro rfl p rfl
        cases hcalled
      change Same (b.run host send receiver args) (b.run host' send' receiver args)
      rw [← Builtin.run_eq_of_system hsystem hb]
      exact Builtin.same_run h hb

end

theorem same_callProc (hp : p.body = .send s) (beyond : Eval Value)
    (hargs : ∀ q b, .proc q ∈ args.items → q.body ≠ .block b) (hsize : args.size ≤ k) (hn : k < n) :
    Same (callProc host (sendWithin host n) p args)
      (callProc host' (sendCalling host.system beyond k) p args) := by
  -- By induction on the number of calls. A proc that is called in a call is an argument, and one
  -- argument less is left for it.
  induction k generalizing n p args s host' with
  | zero =>
    have hnil : args.items = [] := List.eq_nil_of_length_eq_zero (Nat.le_zero.mp hsize)
    rw [callProc_of_nil hp hnil, callProc_of_nil hp hnil]
    exact .refl _
  | succ k ih =>
    rcases hitems : args.items with _ | ⟨receiver, others⟩
    · rw [callProc_of_nil hp hitems, callProc_of_nil hp hitems]
      exact .refl _
    · rw [callProc_of_cons hp hitems, callProc_of_cons hp hitems]
      obtain ⟨l, rfl⟩ : ∃ l, n = l + 1 + 1 := ⟨n - 2, by omega⟩
      have hsends := Contract.sends_steady host (l + 1) True
      rw [sendWithin_succ] at hsends
      rw [sendWithin_succ]
      refine same_send rfl ?_ ?_
      · rw [sendWithin_succ]
        exact same_dispatchCalling rfl hsends
      · rintro q rfl
        cases hq : q.body with
        | block b => exact absurd hq (hargs q b (hitems ▸ List.mem_cons_self))
        | send s' =>
          refine ih hq (fun q b hmem => hargs q b (List.mem_of_mem_tail hmem)) ?_ (by omega)
          rw [Args.size_rest]
          omega

end Eval

theorem Host.behaves_only (system : OperatingSystem) :
    (Host.only system (pure .nil)).Behaves fun _ => True :=
  .of_nil (fun _ _ _ _ => rfl) fun _ _ _ => rfl

theorem not_comesTo_overfills {name : String} {items : List Value}
    (hblocks : ∀ q b, .proc q ∈ receiver :: items → q.body ≠ .block b) :
    ¬ ComesTo Overfills receiver name items := by
  intro h
  obtain ⟨v, hv, name, items, hcall⟩ := h.exists_mem
  cases hcall with
  | call => exact hblocks _ _ hv rfl

/-- The outcome is the one on a deep stack without native code, where every send returns. -/
theorem returns_callProc_send (hp : p.body = .send s) (hs : m.Genuine s)
    (hm : m.Intact fun _ => True) (hargs : ∀ q b, .proc q ∈ args.items → q.body ≠ .block b)
    (hgiven : ∀ v ∈ args.items, v.Intact (fun _ => True) ∧ m.Handles v)
    (hfree : ¬ ComesTo m.heap.Blocks (.proc p) "call" args.items) (hn : args.size < n) :
    (callProc host (sendWithin host n) p args).Returns False m := by
  rcases hitems : args.items with _ | ⟨receiver, others⟩
  · rw [callProc_of_nil hp hitems]
    trivial
  · have hrest : receiver :: args.rest.items = args.items := by
      rw [Args.rest, hitems, List.tail_cons]
    have hpassed : ¬ ComesTo m.heap.Blocks receiver s.name args.rest.items := by
      obtain ⟨id, body, isLambda⟩ := p
      obtain rfl : body = .send s := hp
      rw [← hrest] at hfree
      exact fun h => hfree (.passed (by decide) h)
    rw [← hrest] at hgiven hargs
    set bare := Host.only host.system (pure .nil)
    have hreturns : bare.Returns (fun send => send receiver s args.rest) False m := by
      refine (returns_send (Host.behaves_only host.system) hs hm (hgiven _ List.mem_cons_self).1
        (fun v hv => (hgiven v (List.mem_cons_of_mem _ hv)).1)
        (fun v hv => (hgiven v hv).2) hpassed).mono ?_
      exact not_comesTo_overfills hargs
    rw [hrest] at hargs
    obtain ⟨depth, hdepth⟩ := hreturns
    have hdeep : (callProc bare (sendWithin bare (depth + n)) p args).Returns False m := by
      rw [callProc_of_cons hp hitems]
      exact hdepth _ (Nat.le_add_right depth n)
    have hbare : callProc bare (sendWithin bare (depth + n)) p args m =
        callProc bare (sendCalling bare.system (pure .nil) args.size) p args m :=
      same_callProc hp _ hargs le_rfl (by omega) m hm.defines
    refine (returns_of_eq ?_).mpr hdeep
    calc callProc host (sendWithin host n) p args m
        = callProc bare (sendCalling host.system (pure .nil) args.size) p args m :=
          same_callProc hp _ hargs le_rfl hn m hm.defines
      _ = callProc bare (sendWithin bare (depth + n)) p args m := hbare.symm

namespace Machine

theorem lastDefined_toProc (hds : ∀ method, (("Symbol", "to_proc"), method) ∉ ds) :
    lastDefined (Builtin.definitions ++ ds) "Symbol" "to_proc" =
      some (.builtin (.symbol .toProc)) := by
  rw [lastDefined_append hds]
  decide

theorem Defines.after_classOf_proc (hd : m.Defines (Builtin.definitions ++ ds)) (p : Proc) :
    (classOf (.proc p)).after m = m.countHit := by
  have hcall : lastDefined Builtin.definitions "Proc" "call" = some (.builtin (.proc .call)) := by
    decide
  exact after_intern (hd.registered (List.mem_append_left ds (mem_of_lastDefined hcall))).1

/-- Calling the proc that a symbol answers to `to_proc` is sending the symbol to the first argument,
on the same machine, with the keywords as they are unless no argument is left. By a message, finding
the method counts hits in the symbol table first, and changes nothing else. With the built-in
methods only, and as long as no argument is a native proc, a call comes to the same on every stack
with more room than there are arguments, whatever were to happen beyond so many calls of procs. It
answers or fails with an error of the program, if its values are intact and without cycles and it
does not come to a write of a hash under a key that the hash is inside of. -/
theorem symbol_proc_calls (s : Symbol) (p : Proc) (hp : p.body = .send s) (args : Args) :
    (∀ h name, args.rest.keyword? h name = if args.size ≤ 1 then none else args.keyword? h name) ∧
    (∀ host send m, Forwards host send p s args m (callProc host send p args m)) ∧
    (∀ c host m₀ m ds, host.Keeps Extends → ofConfig c = .ok m₀ → Run host m₀ m ds → ∀ n,
      ((∀ method, (("Symbol", "to_proc"), method) ∉ ds) →
        ∃ q m', reply host n (.symbol s) "to_proc" .empty m = .ok (.proc q) m' ∧ q.body = .send s) ∧
      ∀ name ∈ ["call", "yield", "[]"], (∀ method, (("Proc", name), method) ∉ ds) →
        Forwards host (sendWithin host n) p s args m.countHit.countHit
          (reply host n (.proc p) name args m) ∧
        ∀ t ∈ m.symbols.symbols, t.name = name →
          Forwards host (sendWithin host n) p s args m.countHit
            (sendWithin host (n + 1) (.proc p) t args m)) ∧
    ∀ host m, m.Defines Builtin.definitions → (∀ q b, .proc q ∈ args.items → q.body ≠ .block b) →
      ∀ n > args.size,
        (∀ beyond, callProc host (sendWithin host n) p args m =
          callProc host (sendCalling host.system beyond args.size) p args m) ∧
        (m.Intact (fun _ => True) → m.Genuine s →
          (∀ v ∈ args.items, v.Intact (fun _ => True) ∧ m.Handles v) →
          ¬ ComesTo m.heap.Blocks (.proc p) "call" args.items →
            (callProc host (sendWithin host n) p args).Returns False m) := by
  refine ⟨args.keyword?_rest, fun host send m => forwards_callProc hp host send args m, ?_, ?_⟩
  · intro c host m₀ m ds hh hm₀ hr n
    have hd : m.Defines (Builtin.definitions ++ ds) := (defines_ofConfig hm₀).run hh hr
    refine ⟨fun hds => ?_, fun name hname hds => ?_⟩
    · rw [hd.reply_symbol_eq (lastDefined_toProc hds)]
      exact ⟨_, _, rfl, rfl⟩
    · have hfound : lastDefined (Builtin.definitions ++ ds) (Value.proc p).className name = _ :=
        lastDefined_call hname hds
      have hreply : reply host n (.proc p) name args m = _ := hd.reply_found_eq (by simp) hfound
      constructor
      · rw [hreply]
        exact forwards_callProc hp host _ args _
      · intro t ht htname
        rw [hd.send_call hname hds _ ht htname, hd.after_classOf_proc]
        exact forwards_callProc hp host _ args _
  · intro host m hd hargs n hn
    refine ⟨fun beyond => same_callProc hp beyond hargs le_rfl hn m hd,
      fun hm hs hgiven hfree => ?_⟩
    exact returns_callProc_send hp hs hm hargs hgiven hfree hn

/-- The proc of `call`, called with itself twice over, calls itself until no argument is left. -/
theorem symbol_proc_calls_itself :
    ∃ m₀, ofConfig .standard = .ok m₀ ∧
      let m := (intern "call").after m₀
      let p : Proc := ⟨0, .send (m₀.symbols.intern "call").1, true⟩
      let args : Args := .positional [.proc p, .proc p]
      m.Intact (fun _ => True) ∧ ∀ n > 2,
        (callProc .idle (sendWithin .idle n) p args).Returns False m ∧
        callProc .idle (sendWithin .idle n) p args m =
          callProc .idle (sendCalling Host.idle.system (throw .panic) 2) p args m ∧
        callProc .idle (sendWithin .idle n) p args m =
          .error (.error (.arity 0 (.atLeast 1))) m.countHit.countHit := by
  obtain ⟨m₀, hm₀⟩ : ∃ m₀, ofConfig .standard = .ok m₀ := ⟨_, rfl⟩
  refine ⟨m₀, hm₀, ?_⟩
  intro m p args
  have hm : m.Intact fun _ => True :=
    (Reachable.intern "call" (.start hm₀)).intact (Host.behaves_only Host.idle.system)
  have hprocs : ∀ q b, .proc q ∈ args.items → q.body ≠ .block b := by
    intro q b hq
    obtain rfl : q = p := by simpa [args, Args.positional] using hq
    exact ProcBody.noConfusion
  obtain ⟨hname, hmem⟩ := (defines_ofConfig hm₀).symbol_of_intern "call"
  have hgiven : ∀ v ∈ args.items, v.Intact (fun _ => True) ∧ m.Handles v := by
    intro v hv
    obtain rfl : v = .proc p := by simpa [args, Args.positional] using hv
    refine ⟨trivial, trivial, .of_flat rfl, ?_⟩
    rintro _ s ⟨⟩ ⟨⟩
    exact .inl hmem
  have hfree : ¬ ComesTo m.heap.Blocks (.proc p) "call" args.items := by
    intro hwrites
    obtain ⟨v, hv, name, items, hstore⟩ := hwrites.exists_mem
    obtain rfl : v = .proc p := by simpa [args, Args.positional] using hv
    cases hstore
  refine ⟨hm, fun n hn => ?_⟩
  obtain ⟨-, hdirect, -, hends⟩ := symbol_proc_calls _ p rfl args
  obtain ⟨hbound, hreturns⟩ := hends .idle m hm.defines hprocs n hn
  refine ⟨hreturns hm (.inl hmem) hgiven hfree, hbound _, ?_⟩
  obtain ⟨l, rfl⟩ : ∃ l, n = l + 1 + 1 := ⟨n - 2, by omega⟩
  have hd : m.Defines (Builtin.definitions ++ []) := by simpa using hm.defines
  have hrun : Run .idle m₀ m [] := .intern "call" .start
  have hrun' : Run .idle m₀ m.countHit [] := by
    rw [← hd.after_classOf_proc p]
    exact .intern "Proc" hrun
  obtain ⟨-, -, honce, -⟩ := symbol_proc_calls _ p rfl (.positional [.proc p])
  obtain ⟨-, -, htwice, -⟩ := symbol_proc_calls _ p rfl args.rest.rest
  have hfirst :=
    ((honce _ _ _ _ _ Host.keeps_idle hm₀ hrun (l + 1)).2 "call" (by decide)
      (by simp)).2 _ hmem hname
  have hmem' := m.extends_countHit.symbols.mem_symbols hmem
  have hsecond :=
    ((htwice _ _ _ _ _ Host.keeps_idle hm₀ hrun' l).2 "call" (by decide) (by simp)).2 _ hmem' hname
  calc callProc .idle (sendWithin .idle (l + 1 + 1)) p args m
      = sendWithin .idle (l + 1 + 1) (.proc p) _ args.rest m := (hdirect .idle _ m).sent _ _ rfl
    _ = sendWithin .idle (l + 1) (.proc p) _ args.rest.rest m.countHit := hfirst.sent _ _ rfl
    _ = .error (.error (.arity 0 (.atLeast 1))) m.countHit.countHit := hsecond.refused rfl

theorem Defines.send_inspect_endless (hd : m.Defines Builtin.definitions)
    (hs : s ∈ m.symbols.symbols) (hname : s.name = "inspect") {r : ℕ}
    (hr : m.heap.ShownIn (.array r) (.array r)) :
    ∃ m', sendWithin host (n + 1) (.array r) s .empty m = .error .endless m' := by
  have hknows : m.Knows (.array r) := trivial
  have hfind := hd.findMethod_of_mem hknows hs
  have hfound : (lastDefined Builtin.definitions "Array" "inspect").or
      (lastDefined Builtin.definitions Builtin.objectClass "inspect") =
        some (.builtin (.object .inspect)) := by decide
  rw [hname, show (Value.array r).className = "Array" from rfl, hfound] at hfind
  refine ⟨(classOf (.array r)).after m, (dispatch_of_findMethod hfind).trans ?_⟩
  change (orEndless (m.heap.inspect? (.array r)) >>= newString) _ = _
  rw [Heap.inspect?_eq_none (.single hr)]
  rfl

/-- Without an end, since the array holds itself; and a native method of procs answers in place of
their call. -/
theorem call_symbol_proc_endless :
    ∃ m₀, ofConfig .standard = .ok m₀ ∧
      let s := (m₀.symbols.intern "inspect").1
      let p : Proc := ⟨0, .send s, true⟩
      let m : Machine :=
        { (intern "inspect").after m₀ with heap := (Heap.empty.newArray [.array 0]).2 }
      m.Defines Builtin.definitions ∧
        (∀ n > 1, ∃ m', callProc .idle (sendWithin .idle n) p (.positional [.array 0]) m =
          .error .endless m') ∧
        ∃ m', reply answering 0 (.proc p) "call" .empty
          (m.addDefinition (("Proc", "call"), .native "answer")) = .ok (integer 42) m' := by
  obtain ⟨m₀, hm₀⟩ : ∃ m₀, ofConfig .standard = .ok m₀ := ⟨_, rfl⟩
  refine ⟨m₀, hm₀, ?_⟩
  intro s p m
  obtain ⟨hname, hmem⟩ := (defines_ofConfig hm₀).symbol_of_intern "inspect"
  have hd : m.Defines Builtin.definitions :=
    ((defines_ofConfig hm₀).extends (keeps_intern "inspect" m₀)).extends (Frame.heap _ _)
  refine ⟨hd, fun n hn => ?_, ?_⟩
  · obtain ⟨l, rfl⟩ : ∃ l, n = l + 1 := ⟨n - 1, by omega⟩
    rw [callProc_of_cons (p := p) rfl rfl]
    exact hd.send_inspect_endless hmem hname List.mem_cons_self
  · have hknows : (m.addDefinition (("Proc", "call"), .native "answer")).Knows (.proc p) := trivial
    have hfound :
        lastDefined (Builtin.definitions ++ [(("Proc", "call"), .native "answer")]) "Proc" "call" =
        some (.native "answer") := by decide
    exact ⟨_, ((hd.define _).answers hknows).own _ hfound⟩

end Machine

end LateBinding
