import LateBinding.Proofs.Machine.Dispatch

/-! # What responding tells about sending

A message finds a method, a field to read, a field to write, or nothing. Sending goes by what is
found, and responding shows it, except for a field to write. So a message that nothing responds to
gets nowhere, whatever its arguments, unless it reads like the writing of a field.
-/

namespace LateBinding

open Eval

variable {m m' : Machine} {host : Host} {again : Sender} {receiver : Value} {name : Symbol}
  {args : Args} {method? : Option Method}

inductive Found
  | method (m : Method)
  | reading (v : Value)
  | writing (o : Object) (field : String)
  | nothing

namespace Found

/-- Without a method, an object may have a field of that name, or the name may read like writing
one. -/
def among (h : Heap) (receiver : Value) (name : Symbol) : Option Method → Found
  | some m => method m
  | none =>
    match receiver with
    | .object o =>
      match h.field? o name, writtenField? name.name with
      | some v, _ => reading v
      | none, some field => writing o field
      | none, none => nothing
    | _ => nothing

def perform (host : Host) (again : Sender) (receiver : Value) (name : Symbol) (args : Args) :
    Found → Eval Value
  | method m => m.run host again receiver args
  | reading v => do
    check args (.exactly 0)
    return v
  | writing o field => do
    check args (.exactly 1)
    let v ← arg args 0
    let s ← intern field
    setHeap (·.setField o s v)
    return v
  | nothing => missing receiver name

def isShown : Found → Bool
  | method _ | reading _ => true
  | writing _ _ | nothing => false

end Found

namespace Eval

theorem exists_found (receiver : Value) (name : Symbol) (m : Machine) :
    ∃ method?, findMethod receiver name m = .ok method? ((classOf receiver).after m) := by
  cases receiver <;> exact ⟨_, rfl⟩

theorem heap_after_classOf (receiver : Value) (m : Machine) :
    ((classOf receiver).after m).heap = m.heap := by
  cases receiver <;> rfl

theorem respondsTo_eq_isShown (h : findMethod receiver name m = .ok method? m') :
    respondsTo receiver name m = .ok (Found.among m'.heap receiver name method?).isShown m' := by
  unfold respondsTo
  rw [bind_of_ok h]
  cases method? with
  | some method => rfl
  | none =>
    change EStateM.Result.ok (hasField m'.heap receiver name) m' = _
    congr 1
    cases receiver with
    | object o =>
      cases hv : m'.heap.field? o name <;> cases hw : writtenField? name.name <;>
        simp [hasField, Found.among, Found.isShown, hv, hw]
    | _ => rfl

theorem dispatch_eq_perform (h : findMethod receiver name m = .ok method? m') :
    dispatch host again receiver name args m =
      (Found.among m'.heap receiver name method?).perform host again receiver name args m' := by
  unfold dispatch
  rw [bind_of_ok h]
  cases method? with
  | some method => rfl
  | none =>
    cases receiver with
    | object o =>
      have hheap : heap m' = .ok m'.heap m' := rfl
      change accessField o name args m' = _
      unfold accessField
      rw [bind_of_ok hheap]
      cases hv : m'.heap.field? o name <;> cases hw : writtenField? name.name <;>
        simp [Found.among, Found.perform, hv, hw]
    | _ => rfl

theorem check_bind_of_refused {α : Type} {expected : Arity} (h : expected.accepts args.size = false)
    (f : Unit → Eval α) (m : Machine) :
    (check args expected >>= f) m = .error (.error (.arity args.size expected)) m := by
  rw [check_bind, h]
  rfl

end Eval

namespace Builtin

def IsAnswered (r : EStateM.Result Fault Machine Value) : Prop :=
  ∀ name cls m, r ≠ .error (.error (.noMethod name cls)) m

/-- More arguments than any method with a fixed number of them takes. -/
def crowd : Args := .positional [.nil, .nil, .nil]

/-- The way to send that gets nowhere, since the stack is used up. -/
def blocked : Sender := fun _ _ _ => throw .overflow

theorem isAnswered_of_refused (expected : Arity) {f : Unit → Eval Value}
    (h : expected.accepts crowd.size = false) : IsAnswered ((check crowd expected >>= f) m) := by
  rw [check_bind_of_refused h]
  rintro _ _ _ ⟨⟩

theorem isAnswered_of_parameters {x : Eval (List Value)} {code : String}
    (hx : ∀ name cls m', x m ≠ .error (.error (.noMethod name cls)) m') :
    IsAnswered ((x >>= Host.idle.block code blocked) m) := by
  intro name cls m' h
  cases hp : x m with
  | ok items m₁ =>
    rw [bind_of_ok hp] at h
    cases h
  | error e m₁ =>
    rw [bind_of_error hp] at h
    cases h
    exact hx _ _ _ hp

theorem isAnswered_callProc (p : Proc) : IsAnswered (callProc Host.idle blocked p .empty m) := by
  obtain ⟨id, s | b, isLambda⟩ := p
  · rintro _ _ _ ⟨⟩
  · refine isAnswered_of_parameters fun name cls m' h => ?_
    cases isLambda with
    | true =>
      rw [parameters, if_pos rfl, check_bind] at h
      split at h <;> cases h
    | false =>
      have hp : parameters blocked false b .empty = orPanic (Args.fitted? b.min b.max []) := by
        unfold parameters bindBlock
        cases b.spread <;> rfl
      rw [hp] at h
      cases hf : Args.fitted? b.min b.max [] with
      | some items =>
        rw [hf] at h
        cases h
      | none =>
        rw [hf] at h
        cases h

theorem exists_isAnswered (b : Builtin) (receiver : Value) (m : Machine) :
    ∃ args, IsAnswered (b.run Host.idle blocked receiver args m) := by
  cases b with
  | object k => exact ⟨crowd, isAnswered_of_refused k.arity (by cases k <;> rfl)⟩
  | integer k => exact ⟨crowd, isAnswered_of_refused k.arity (by cases k <;> rfl)⟩
  | float k => exact ⟨crowd, isAnswered_of_refused k.arity (by cases k <;> rfl)⟩
  | hash k => exact ⟨crowd, isAnswered_of_refused k.arity (by cases k <;> rfl)⟩
  | matched k => exact ⟨crowd, isAnswered_of_refused k.arity (by cases k <;> rfl)⟩
  | system k => exact ⟨crowd, isAnswered_of_refused k.arity (by cases k <;> rfl)⟩
  | string k =>
    cases k with
    | upcase | downcase | swapcase | capitalize | startsWith | endsWith =>
      refine ⟨.empty, ?_⟩
      cases receiver <;> rintro _ _ _ ⟨⟩
    | _ => exact ⟨crowd, isAnswered_of_refused _ rfl⟩
  | symbol k =>
    cases k with
    | succ | upcase | downcase | swapcase | capitalize | startsWith | endsWith =>
      refine ⟨.empty, ?_⟩
      cases receiver <;> rintro _ _ _ ⟨⟩
    | _ => exact ⟨crowd, isAnswered_of_refused _ rfl⟩
  | array k =>
    cases k with
    | push =>
      refine ⟨.empty, ?_⟩
      cases receiver <;> rintro _ _ _ ⟨⟩
    | _ => exact ⟨crowd, isAnswered_of_refused _ rfl⟩
  | proc k =>
    cases k with
    | call =>
      refine ⟨.empty, ?_⟩
      cases receiver with
      | proc p => exact isAnswered_callProc p
      | _ => rintro _ _ _ ⟨⟩
    | _ => exact ⟨crowd, isAnswered_of_refused _ rfl⟩

end Builtin

/-- A message that gets nowhere, whatever its arguments, whoever sends it and on whatever host:
there is no method of that name for the class of the receiver, and nothing is changed but that the
class becomes a symbol. -/
def Misses (receiver : Value) (name : Symbol) (m : Machine) : Prop :=
  ∀ host again args, dispatch host again receiver name args m =
    .error (.error (.noMethod name.name receiver.className)) ((classOf receiver).after m)

theorem misses_of_nothing (h : findMethod receiver name m =
    .ok method? ((classOf receiver).after m))
    (hn : Found.among m.heap receiver name method? = .nothing) : Misses receiver name m := by
  intro host again args
  rw [dispatch_eq_perform h, heap_after_classOf, hn]
  rfl

theorem nothing_of_misses (h : findMethod receiver name m =
    .ok method? ((classOf receiver).after m))
    (hm : Misses receiver name m) : Found.among m.heap receiver name method? = .nothing := by
  have hanswer := fun host again args => (dispatch_eq_perform h).symm.trans (hm host again args)
  rw [heap_after_classOf] at hanswer
  cases hfound : Found.among m.heap receiver name method? with
  | method method =>
    rw [hfound] at hanswer
    cases method with
    | native code => cases hanswer Host.idle Builtin.blocked .empty
    | builtin b =>
      obtain ⟨args, hargs⟩ := b.exists_isAnswered receiver ((classOf receiver).after m)
      exact absurd (hanswer Host.idle Builtin.blocked args) (hargs _ _ _)
  | reading v =>
    rw [hfound] at hanswer
    cases hanswer Host.idle Builtin.blocked .empty
  | writing o field =>
    rw [hfound] at hanswer
    cases hanswer Host.idle Builtin.blocked (.positional [.nil])
  | nothing => rfl

def ReadsAsWriting (receiver : Value) (name : Symbol) : Prop :=
  ∃ o field, receiver = .object o ∧ field ≠ "" ∧ name.name = field ++ "="

theorem Found.isShown_iff (h : Heap) : (Found.among h receiver name method?).isShown = true ↔
    method?.isSome = true ∨ hasField h receiver name = true := by
  cases method? with
  | some method => simp [among, isShown]
  | none =>
    cases receiver with
    | object o => cases hv : h.field? o name <;> cases hw : writtenField? name.name <;>
        simp [among, isShown, hasField, hv, hw]
    | _ => simp [among, isShown, hasField]

theorem readsAsWriting_iff {o : Object} :
    ReadsAsWriting (.object o) name ↔ (writtenField? name.name).isSome = true := by
  rw [Option.isSome_iff_exists]
  constructor
  · rintro ⟨_, field, ⟨⟩, hfield⟩
    exact ⟨field, writtenField?_eq_some_iff.mpr hfield⟩
  · rintro ⟨field, hfield⟩
    exact ⟨o, field, rfl, writtenField?_eq_some_iff.mp hfield⟩

theorem Found.eq_nothing_iff (h : Heap) : Found.among h receiver name method? = .nothing ↔
    (Found.among h receiver name method?).isShown = false ∧ ¬ ReadsAsWriting receiver name := by
  cases method? with
  | some method => simp [among, isShown]
  | none =>
    cases receiver with
    | object o =>
      rw [readsAsWriting_iff]
      cases hv : h.field? o name <;> cases hw : writtenField? name.name <;>
        simp [among, isShown, hv, hw]
    | _ => simp [among, isShown, ReadsAsWriting]

theorem Found.eq_writing {h : Heap} {o : Object} {field : String}
    (hshown : (Found.among h (.object o) name method?).isShown = false)
    (hfield : writtenField? name.name = some field) :
    Found.among h (.object o) name method? = .writing o field := by
  cases method? with
  | some method => cases hshown
  | none =>
    cases hv : h.field? o name with
    | some v => simp [among, isShown, hv] at hshown
    | none => simp [among, hv, hfield]

/-- What responding answers, and what that says of the sends of the message. -/
structure Responding (receiver : Value) (name : Symbol) (m : Machine) (answer : Bool) : Prop where
  answers : respondsTo receiver name m = .ok answer ((classOf receiver).after m)
  asked : ∀ send keywords, ObjectMethod.respondTo.run send receiver ⟨[.symbol name], keywords⟩ m =
    .ok (.bool answer) ((classOf receiver).after m)
  shown : answer = true ↔
    (∃ method, findMethod receiver name m = .ok (some method) ((classOf receiver).after m)) ∨
      hasField m.heap receiver name = true
  misses : Misses receiver name m ↔ answer = false ∧ ¬ ReadsAsWriting receiver name
  writes : answer = false → ∀ o field, receiver = .object o → field ≠ "" →
    name.name = field ++ "=" →
    ∀ host again args, dispatch host again receiver name args m =
      match args.items with
      | [v] => .ok v { m with
          symbols := (m.symbols.intern field).2
          heap := m.heap.setField o (m.symbols.intern field).1 v }
      | _ => .error (.error (.arity args.size (.exactly 1))) m

/-- Responding tells which messages get nowhere, except for those that write a field. -/
theorem exists_responding (receiver : Value) (name : Symbol) (m : Machine) :
    ∃ answer, Responding receiver name m answer := by
  obtain ⟨method?, hfind⟩ := exists_found receiver name m
  have hanswers := respondsTo_eq_isShown hfind
  rw [heap_after_classOf] at hanswers
  refine ⟨(Found.among m.heap receiver name method?).isShown, hanswers, ?_, ?_, ?_, ?_⟩
  · intro send keywords
    change (respondsTo receiver name >>= fun answer => pure (Value.bool answer)) m = _
    rw [bind_of_ok hanswers]
    rfl
  · rw [Found.isShown_iff]
    refine or_congr_left ?_
    rw [hfind]
    cases method? <;> simp
  · rw [← Found.eq_nothing_iff]
    exact ⟨nothing_of_misses hfind, misses_of_nothing hfind⟩
  · rintro hanswer o field rfl hne hname host again ⟨items, keywords⟩
    have hfield := writtenField?_eq_some_iff.mpr ⟨hne, hname⟩
    rw [dispatch_eq_perform hfind, heap_after_classOf, Found.eq_writing hanswer hfield]
    rcases items with _ | ⟨v, _ | ⟨w, rest⟩⟩ <;> rfl

namespace Machine

variable {defs : List Definition} {message field : String} {cls : Symbol}

def hasFieldNamed (h : Heap) (receiver : Value) (message : String) : Bool :=
  match receiver with
  | .object o => (h.fieldNamed? o message).isSome
  | _ => false

theorem Defines.respondsToName_eq (hd : m.Defines defs) (hknows : m.Knows receiver) :
    respondsToName receiver message m = .ok
      (((lastDefined defs receiver.className message).or
        (lastDefined defs Builtin.objectClass message)).isSome ||
        hasFieldNamed m.heap receiver message)
      (m.withSymbols receiver message) := by
  have hintern : intern message m = .ok (m.symbols.intern message).1 ((intern message).after m) :=
    rfl
  have hfind : findMethod receiver (m.symbols.intern message).1 _ = _ := hd.findMethod_eq hknows
  unfold respondsToName
  rw [bind_of_ok hintern, respondsTo_eq_isShown hfind]
  congr 1
  rw [Bool.eq_iff_iff, Found.isShown_iff, Bool.or_eq_true]
  refine or_congr_right ?_
  cases receiver with
  | object o =>
    unfold hasField hasFieldNamed
    dsimp only
    rw [hd.field?_withSymbols hknows]
  | _ => rfl

def withObject (m : Machine) (cls : Symbol) : Machine :=
  { m with heap := (m.heap.newObject cls []).2 }

def newest (m : Machine) (cls : Symbol) : Object := (m.heap.newObject cls []).1

theorem fields_withObject (m : Machine) (cls : Symbol) :
    (m.withObject cls).heap.fields (m.newest cls) = [] := by
  simp [withObject, newest, Heap.newObject, Heap.fields]

/-- An object that has no field yet takes the message that writes it, and does not respond to it. -/
theorem Defines.unshown_writing (hd : m.Defines defs) (hcls : cls ∈ m.symbols.symbols)
    (hundefined : Undefined defs cls.name (field ++ "=")) (hfield : field ≠ "") :
    respondsToName (.object (m.newest cls)) (field ++ "=") (m.withObject cls) =
        .ok false ((m.withObject cls).withSymbols (.object (m.newest cls)) (field ++ "=")) ∧
      ∀ n v keywords, reply host n (.object (m.newest cls)) (field ++ "=") ⟨[v], keywords⟩
        (m.withObject cls) =
        .ok v (((m.withObject cls).withSymbols (.object (m.newest cls)) (field ++ "=")).storing
          (m.newest cls) field v) := by
  have hd' : (m.withObject cls).Defines defs := hd.extends (Frame.heap (R := Extends) m _)
  have hknows : (m.withObject cls).Knows (.object (m.newest cls)) := by
    refine ⟨hcls, fun e he => ?_⟩
    rw [fields_withObject] at he
    cases he
  have hnone : (m.withObject cls).heap.fieldNamed? (m.newest cls) (field ++ "=") = none := by
    rw [Heap.fieldNamed?, fields_withObject]
    rfl
  have hmethod : (lastDefined defs cls.name (field ++ "=")).or
      (lastDefined defs Builtin.objectClass (field ++ "=")) = none :=
        Option.or_eq_none_iff.mpr hundefined
  refine ⟨?_, fun n v keywords => ?_⟩
  · rw [hd'.respondsToName_eq hknows]
    change EStateM.Result.ok (((lastDefined defs cls.name _).or _).isSome ||
      (Heap.fieldNamed? _ _ _).isSome) _ = _
    rw [hmethod, hnone]
    rfl
  · exact (hd'.answers hknows).write hundefined _ rfl hnone field hfield rfl

/-- A new point does not respond to the message that sets its first coordinate. -/
theorem unshown_writing_point :
    ∃ m cls, m = (intern "Point").after (build .standard) ∧ m.symbols.lookup? "Point" = some cls ∧
      respondsToName (.object (m.newest cls)) "x=" (m.withObject cls) =
        .ok false ((m.withObject cls).withSymbols (.object (m.newest cls)) "x=") ∧
      ∀ n v keywords, reply Host.idle n (.object (m.newest cls)) "x=" ⟨[v], keywords⟩
        (m.withObject cls) =
        .ok v (((m.withObject cls).withSymbols (.object (m.newest cls)) "x=").storing
          (m.newest cls) "x" v) := by
  obtain ⟨m₀, hm₀, hd⟩ : ∃ m₀, m₀ = build .standard ∧ m₀.Defines Builtin.definitions :=
    ⟨_, rfl, defines_build .standard⟩
  rw [← hm₀]
  obtain ⟨hname, hmem⟩ := hd.symbol_of_intern "Point"
  refine ⟨_, _, rfl, m₀.symbols.lookup?_intern "Point", ?_⟩
  have hmessage : "x=" = "x" ++ "=" := by decide
  have hundefined : Undefined Builtin.definitions "Point" ("x" ++ "=") := by
    constructor <;> decide
  rw [← hname] at hundefined
  rw [hmessage]
  exact (hd.extends (keeps_intern "Point" m₀)).unshown_writing hmem hundefined (by decide)

end Machine

end LateBinding
