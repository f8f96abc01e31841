import LateBinding.Proofs.Machine.Definitions

/-! # Dispatch by text

The machine finds methods and fields by symbols. What a message does is nevertheless settled by
texts: the class name of the receiver, the name of the message, the definitions made so far and the
names of the fields. Which symbols there are, and in what order they came to be, plays no part.
-/

namespace LateBinding

variable {m m' : Machine} {host : Host} {n : ℕ} {defs : List Definition} {receiver : Value}
  {name : String} {args : Args} {o : Object}

namespace Heap

def fieldNamed? (h : Heap) (o : Object) (name : String) : Option Value :=
  Entries.get? (·.name == name) (h.fields o)

/-- Stores a value in the field that reads like the symbol, or else in a new one. -/
def setFieldNamed (h : Heap) (o : Object) (s : Symbol) (v : Value) : Heap :=
  { h with
    objects := h.objects.setIfInBounds o.ref (Entries.put (·.name == s.name) s v (h.fields o)) }

end Heap

namespace Eval

theorem writtenField?_eq_some_iff {message field : String} :
    writtenField? message = some field ↔ field ≠ "" ∧ message = field ++ "=" := by
  unfold writtenField?
  constructor
  · intro h
    split at h
    · next c r hr =>
      obtain rfl := Option.some.inj h
      have hl : message.toList = (c :: r).reverse ++ ['='] := by
        rw [← List.reverse_cons, ← hr, List.reverse_reverse]
      refine ⟨fun hempty => ?_, ?_⟩
      · have := congrArg String.toList hempty
        simp at this
      · rw [← String.toList_inj, hl, String.toList_append, String.toList_ofList]
        rfl
    · cases h
  · rintro ⟨hne, rfl⟩
    have hl : (field ++ "=").toList.reverse = '=' :: field.toList.reverse := by
      rw [String.toList_append, List.reverse_append]
      rfl
    rw [hl]
    rcases hr : field.toList.reverse with _ | ⟨c, r⟩
    · rw [List.reverse_eq_nil_iff, String.toList_eq_nil_iff] at hr
      exact absurd hr hne
    · change some (String.ofList (c :: r).reverse) = some field
      rw [← hr, List.reverse_reverse, String.ofList_toList]

theorem bind_of_ok {α β : Type} {x : Eval α} {f : α → Eval β} {a : α} (h : x m = .ok a m') :
    (x >>= f) m = f a m' := by
  change EStateM.bind x f m = f a m'
  unfold EStateM.bind
  rw [h]

theorem bind_of_error {α β : Type} {x : Eval α} {f : α → Eval β} {e : Fault}
    (h : x m = .error e m') : (x >>= f) m = .error e m' := by
  change EStateM.bind x f m = .error e m'
  unfold EStateM.bind
  rw [h]

theorem check_bind {α : Type} (args : Args) (expected : Arity) (f : Unit → Eval α) (m : Machine) :
    (check args expected >>= f) m = if expected.accepts args.size then f () m
      else .error (.error (.arity args.size expected)) m := by
  unfold check Args.check
  split
  · exact bind_of_ok rfl
  · exact bind_of_error rfl

theorem accessField_of_field {s : Symbol} {v : Value} (hv : m.heap.field? o s = some v) :
    accessField o s args m = if args.size = 0 then .ok v m
      else .error (.error (.arity args.size (.exactly 0))) m := by
  have hheap : heap m = .ok m.heap m := rfl
  unfold accessField
  rw [bind_of_ok hheap, hv]
  refine (check_bind args (.exactly 0) _ m).trans ?_
  simp only [Arity.accepts, beq_iff_eq]
  rfl

theorem accessField_of_written {s : Symbol} {field : String} (hs : m.heap.field? o s = none)
    (hw : writtenField? s.name = some field) :
    accessField o s args m =
      match args.items with
      | [v] => .ok v { m with
          symbols := (m.symbols.intern field).2
          heap := m.heap.setField o (m.symbols.intern field).1 v }
      | _ => .error (.error (.arity args.size (.exactly 1))) m := by
  have hheap : heap m = .ok m.heap m := rfl
  unfold accessField
  rw [bind_of_ok hheap, hs]
  dsimp only
  rw [hw]
  refine (check_bind args (.exactly 1) _ m).trans ?_
  obtain ⟨items, keywords⟩ := args
  rcases items with _ | ⟨v, _ | ⟨w, rest⟩⟩
  · rfl
  · rfl
  · rfl

theorem accessField_of_missing {s : Symbol} (hs : m.heap.field? o s = none)
    (hw : writtenField? s.name = none) :
    accessField o s args m = .error (.error (.noMethod s.name o.cls.name)) m := by
  have hheap : heap m = .ok m.heap m := rfl
  unfold accessField
  rw [bind_of_ok hheap, hs]
  dsimp only
  rw [hw]
  rfl

end Eval

namespace Machine

def withSymbols (m : Machine) (receiver : Value) (name : String) : Machine :=
  (Eval.classOf receiver).after ((Eval.intern name).after m)

/-- An object has the symbols of its class and its fields from the machine. -/
def Knows (m : Machine) : Value → Prop
  | .object o => o.cls ∈ m.symbols.symbols ∧ ∀ e ∈ m.heap.fields o, e.1 ∈ m.symbols.symbols
  | _ => True

def storing (m : Machine) (o : Object) (field : String) (v : Value) : Machine :=
  let (s, symbols) := m.symbols.intern field
  { m with symbols := symbols, heap := m.heap.setFieldNamed o s v }

theorem Knows.of_extends (hr : m.Knows receiver) (h : m.Extends m') (hh : m'.heap = m.heap) :
    m'.Knows receiver := by
  cases receiver with
  | object o =>
    refine ⟨h.symbols.mem_symbols hr.1, fun e he => ?_⟩
    rw [hh] at he
    exact h.symbols.mem_symbols (hr.2 e he)
  | _ => trivial

theorem extends_withSymbols (m : Machine) (receiver : Value) (name : String) :
    m.Extends (m.withSymbols receiver name) :=
  Frame.trans (Eval.keeps_intern name m) (Eval.keeps_classOf receiver _)

theorem heap_withSymbols (m : Machine) (receiver : Value) (name : String) :
    (m.withSymbols receiver name).heap = m.heap := by
  cases receiver <;> rfl

theorem Defines.symbol_of_intern (hd : m.Defines defs) (name : String) :
    (m.symbols.intern name).1.name = name ∧
      (m.symbols.intern name).1 ∈ (m.symbols.intern name).2.symbols := by
  have hcan := (m.symbols.extends_intern name).canonical hd.canonical
  have hlook := m.symbols.lookup?_intern name
  have hname := hcan.name_of_lookup? hlook
  exact ⟨hname, hcan.mem_symbols_iff.mpr (hname.symm ▸ hlook)⟩

theorem exists_symbols (first second : String) : ∃ (m : Machine) (s t : Symbol),
    m.Defines Builtin.definitions ∧ s ∈ m.symbols.symbols ∧ s.name = first ∧
    t ∈ m.symbols.symbols ∧ t.name = second := by
  obtain ⟨m₀, hd₀⟩ := exists_defines
  obtain ⟨hsname, hsmem⟩ := hd₀.symbol_of_intern first
  have hd₁ := hd₀.extends (Eval.keeps_intern first m₀)
  obtain ⟨htname, htmem⟩ := hd₁.symbol_of_intern second
  have hext : Machine.Extends _ _ := Eval.keeps_intern second ((Eval.intern first).after m₀)
  exact ⟨_, _, _, hd₁.extends hext, hext.symbols.mem_symbols hsmem, hsname, htmem, htname⟩

theorem Defines.exists_class (hd : m.Defines defs) (hr : m.Knows receiver) :
    ∃ c, Eval.classOf receiver m = .ok c ((Eval.classOf receiver).after m) ∧
      c.name = receiver.className ∧ c ∈ ((Eval.classOf receiver).after m).symbols.symbols := by
  cases receiver with
  | object o => exact ⟨o.cls, rfl, rfl, hr.1⟩
  | _ =>
    obtain ⟨hname, hmem⟩ := hd.symbol_of_intern (Value.className _)
    exact ⟨_, rfl, hname, hmem⟩

theorem Defines.field?_eq (hd : m.Defines defs)
    (ho : ∀ e ∈ m.heap.fields o, e.1 ∈ m.symbols.symbols) {s : Symbol}
    (hs : s ∈ m.symbols.symbols) : m.heap.field? o s = m.heap.fieldNamed? o s.name := by
  refine Entries.get?_congr fun e he => ?_
  rw [Bool.eq_iff_iff, hd.canonical.same_iff (ho e he) hs, beq_iff_eq]

theorem Defines.setField_eq (hd : m.Defines defs)
    (ho : ∀ e ∈ m.heap.fields o, e.1 ∈ m.symbols.symbols) {s : Symbol} (hs : s ∈ m.symbols.symbols)
    (v : Value) : m.heap.setField o s v = m.heap.setFieldNamed o s v := by
  unfold Heap.setField Heap.setFieldNamed
  rw [Entries.put_congr fun e he => ?_]
  rw [Bool.eq_iff_iff, hd.canonical.same_iff (ho e he) hs, beq_iff_eq]

/-- What a message by its name ends in, on a stack with room for one send and `n` nested ones. -/
def reply (host : Host) (n : ℕ) (receiver : Value) (name : String) (args : Args) (m : Machine) :
    EStateM.Result Fault Machine Value :=
  Sender.byName (Eval.sendWithin host (n + 1)) receiver name args m

theorem Defines.mem_withSymbols (hd : m.Defines defs) (receiver : Value) (name : String) :
    (m.symbols.intern name).1 ∈ (m.withSymbols receiver name).symbols.symbols :=
  (Eval.keeps_classOf (R := Extends) receiver _).symbols.mem_symbols (hd.symbol_of_intern name).2

/-- The method found by symbols is the one found by text. -/
theorem Defines.findMethod_of_mem (hd : m.Defines defs) (hr : m.Knows receiver) {s : Symbol}
    (hs : s ∈ m.symbols.symbols) :
    Eval.findMethod receiver s m =
      .ok ((lastDefined defs receiver.className s.name).or
        (lastDefined defs Builtin.objectClass s.name)) ((Eval.classOf receiver).after m) := by
  have hext : m.Extends ((Eval.classOf receiver).after m) := Eval.keeps_classOf receiver m
  obtain ⟨c, hc, hcname, hcmem⟩ := hd.exists_class hr
  set m' := (Eval.classOf receiver).after m
  have hd' := hd.extends hext
  have hobject := hd'.canonical.name_of_lookup? hd'.object
  have hobjmem := hd'.canonical.mem_symbols_iff.mpr (hobject.symm ▸ hd'.object)
  have hmem := hext.symbols.mem_symbols hs
  unfold Eval.findMethod
  rw [Eval.bind_of_ok hc]
  change EStateM.Result.ok ((m'.methods.get? c s).or (m'.methods.get? m'.objectClass s)) m' = _
  rw [hd'.get? hcmem hmem, hd'.get? hobjmem hmem, hcname, hobject]

theorem Defines.findMethod_eq (hd : m.Defines defs) (hr : m.Knows receiver) :
    Eval.findMethod receiver (m.symbols.intern name).1 ((Eval.intern name).after m) =
      .ok ((lastDefined defs receiver.className name).or
        (lastDefined defs Builtin.objectClass name)) (m.withSymbols receiver name) := by
  have hext : m.Extends ((Eval.intern name).after m) := Eval.keeps_intern name m
  obtain ⟨hname, hmem⟩ := hd.symbol_of_intern name
  rw [(hd.extends hext).findMethod_of_mem (hr.of_extends hext rfl) hmem, hname]
  rfl

def withoutMethod (receiver : Value) (name : Symbol) (args : Args) : Eval Value :=
  match receiver with
  | .object o => Eval.accessField o name args
  | v => Eval.missing v name

theorem Defines.reply_eq (hd : m.Defines defs) (hr : m.Knows receiver) :
    reply host n receiver name args m =
      (match (lastDefined defs receiver.className name).or
          (lastDefined defs Builtin.objectClass name) with
        | some method => method.run host (Eval.sendWithin host n) receiver args
        | none => withoutMethod receiver (m.symbols.intern name).1 args)
        (m.withSymbols receiver name) := by
  have hintern : Eval.intern name m = .ok (m.symbols.intern name).1 ((Eval.intern name).after m) :=
    rfl
  unfold reply Sender.byName
  rw [Eval.bind_of_ok hintern]
  unfold Eval.sendWithin Eval.dispatch
  rw [Eval.bind_of_ok (hd.findMethod_eq hr)]
  cases (lastDefined defs receiver.className name).or
    (lastDefined defs Builtin.objectClass name) with
  | some method => rfl
  | none => cases receiver <;> rfl

section Field

variable (hd : m.Defines defs) (ho : m.Knows (.object o))

include hd ho

theorem Defines.field?_withSymbols :
    (m.withSymbols (.object o) name).heap.field? o (m.symbols.intern name).1 =
      m.heap.fieldNamed? o name := by
  have hext := m.extends_withSymbols (.object o) name
  have hheap := m.heap_withSymbols (.object o) name
  have hknows := ho.of_extends hext hheap
  rw [(hd.extends hext).field?_eq hknows.2 (hd.mem_withSymbols _ _), hheap,
    (hd.symbol_of_intern name).1]

theorem Defines.storing_eq (field : String) (v : Value) :
    { m with
      symbols := (m.symbols.intern field).2
      heap := m.heap.setField o (m.symbols.intern field).1 v } = m.storing o field v := by
  have hext : m.Extends ((Eval.intern field).after m) := Eval.keeps_intern field m
  have hset := (hd.extends hext).setField_eq (ho.of_extends hext rfl).2
    (hd.symbol_of_intern field).2 v
  exact congrArg (fun h => { m with symbols := (m.symbols.intern field).2, heap := h }) hset

end Field

def Undefined (defs : List Definition) (cls name : String) : Prop :=
  lastDefined defs cls name = none ∧ lastDefined defs Builtin.objectClass name = none

/-- The reply to a message, told by texts: the method of the class, that of all objects, a field
read, a field written, or no method. -/
structure Answers (host : Host) (n : ℕ) (defs : List Definition) (receiver : Value) (name : String)
    (args : Args) (m : Machine) : Prop where
  own : ∀ method, lastDefined defs receiver.className name = some method →
    reply host n receiver name args m =
      method.run host (Eval.sendWithin host n) receiver args (m.withSymbols receiver name)
  shared : lastDefined defs receiver.className name = none →
    ∀ method, lastDefined defs Builtin.objectClass name = some method →
      reply host n receiver name args m =
        method.run host (Eval.sendWithin host n) receiver args (m.withSymbols receiver name)
  read : Undefined defs receiver.className name →
    ∀ o, receiver = .object o → ∀ v, m.heap.fieldNamed? o name = some v →
      reply host n receiver name args m =
        if args.size = 0 then .ok v (m.withSymbols receiver name)
        else .error (.error (.arity args.size (.exactly 0))) (m.withSymbols receiver name)
  write : Undefined defs receiver.className name →
    ∀ o, receiver = .object o → m.heap.fieldNamed? o name = none →
      ∀ field, field ≠ "" → name = field ++ "=" →
        reply host n receiver name args m =
          match args.items with
          | [v] => .ok v ((m.withSymbols receiver name).storing o field v)
          | _ => .error (.error (.arity args.size (.exactly 1))) (m.withSymbols receiver name)
  missing : Undefined defs receiver.className name →
    (∀ o, receiver = .object o → m.heap.fieldNamed? o name = none ∧
      ∀ field, field ≠ "" → name ≠ field ++ "=") →
      reply host n receiver name args m =
        .error (.error (.noMethod name receiver.className)) (m.withSymbols receiver name)

theorem Defines.answers (hd : m.Defines defs) (hr : m.Knows receiver) :
    Answers host n defs receiver name args m := by
  have hname := (hd.symbol_of_intern name).1
  refine ⟨fun method hm => ?_, fun hn method hm => ?_, ?_, ?_, ?_⟩
  · rw [hd.reply_eq hr, hm]
    rfl
  · rw [hd.reply_eq hr, hn, hm]
    rfl
  · rintro ⟨hn, hn'⟩ o rfl v hv
    rw [hd.reply_eq hr, hn, hn']
    exact Eval.accessField_of_field ((hd.field?_withSymbols hr).trans hv)
  · rintro ⟨hn, hn'⟩ o rfl hnone field hne hmsg
    rw [hd.reply_eq hr, hn, hn']
    have hext := m.extends_withSymbols (.object o) name
    have hknows := hr.of_extends hext (m.heap_withSymbols _ _)
    have hwritten := Eval.writtenField?_eq_some_iff.mpr ⟨hne, hname.trans hmsg⟩
    refine (Eval.accessField_of_written ((hd.field?_withSymbols hr).trans hnone) hwritten).trans ?_
    obtain ⟨items, keywords⟩ := args
    rcases items with _ | ⟨v, _ | ⟨w, rest⟩⟩
    · rfl
    · exact congrArg _ ((hd.extends hext).storing_eq hknows field v)
    · rfl
  · rintro ⟨hn, hn'⟩ hfield
    rw [hd.reply_eq hr, hn, hn']
    cases receiver with
    | object o =>
      obtain ⟨hnone, hmsg⟩ := hfield o rfl
      have hwritten : Eval.writtenField? (m.symbols.intern name).1.name = none := by
        rw [hname, Option.eq_none_iff_forall_ne_some]
        intro field hw
        obtain ⟨hne, heq⟩ := Eval.writtenField?_eq_some_iff.mp hw
        exact hmsg field hne heq
      refine (Eval.accessField_of_missing
        ((hd.field?_withSymbols hr).trans hnone) hwritten).trans ?_
      rw [hname]
      rfl
    | _ =>
      exact congrArg (fun s => EStateM.Result.error (Fault.error (.noMethod s _)) _) hname

/-- Machines that come of a first one by definitions, interned names and sends, in any order, among
which the program around it may set the heap and the register of the last match. -/
inductive Run (host : Host) (m : Machine) : Machine → List Definition → Prop
  | start : Run host m m []
  | define {m' : Machine} {ds : List Definition} (d : Definition) (hr : Run host m m' ds) :
    Run host m (m'.addDefinition d) (ds ++ [d])
  | intern {m' : Machine} {ds : List Definition} (name : String) (hr : Run host m m' ds) :
    Run host m ((Eval.intern name).after m') ds
  | send {m' : Machine} {ds : List Definition} (n : ℕ) (receiver : Value) (name : Symbol)
    (args : Args) (hr : Run host m m' ds) :
    Run host m ((Eval.sendWithin host n receiver name args).after m') ds
  | outside {m' : Machine} {ds : List Definition} (h : Heap) (v : Value) (hr : Run host m m' ds) :
    Run host m { m' with heap := h, lastMatch := v } ds

theorem Defines.run (hd : m.Defines defs) (hh : host.Keeps Extends) {ds : List Definition}
    (hr : Run host m m' ds) : m'.Defines (defs ++ ds) := by
  induction hr with
  | start => rwa [List.append_nil]
  | define d _ ih =>
    rw [← List.append_assoc]
    exact ih.define d
  | intern name _ ih => exact ih.extends (Eval.keeps_intern name _)
  | send n receiver name args _ ih =>
    exact ih.extends (keeps_sendWithin hh n receiver name args _)
  | outside h v _ ih => exact ih.extends ⟨rfl, rfl, .refl _⟩

/-- Dispatch by symbols is dispatch by text, in every machine that comes of a valid configuration.
Native code interns, sends and writes the heap; the methods of a machine that runs are out of its
reach. -/
theorem dispatch_by_text (c : Config) (hc : 0 < c.symbolCapacity) (host : Host)
    (hh : host.Keeps Extends) :
    ∃ m₀, ofConfig c = .ok m₀ ∧ ∀ m ds, Run host m₀ m ds →
      m.methods.size = ((Builtin.definitions ++ ds).map Prod.fst).toFinset.card ∧
        ∀ receiver, m.Knows receiver → ∀ name args n,
          Answers host n (Builtin.definitions ++ ds) receiver name args m := by
  refine ⟨build c, ?_, fun m ds hr => ?_⟩
  · unfold ofConfig Config.validate
    rw [if_neg hc.ne']
    rfl
  · have hd := (defines_build c).run hh hr
    exact ⟨hd.size, fun receiver hk name args n => hd.answers hk⟩

def answering : Host where
  system := .ofLists [] [] []
  method _ _ _ args := do
    Eval.check args (.exactly 0)
    return Eval.integer 42
  block _ _ _ := return .nil
  stack := 1

theorem dispatch_by_text_answer :
    answering.Keeps Extends ∧ ∃ m₀, ofConfig .standard = .ok m₀ ∧
      let m := m₀.addDefinition (("Integer", "answer"), .native "answer")
      m.methods.size = m₀.methods.size + 1 ∧
        reply answering 0 (.integer 7) "answer" .empty m =
          .ok (Eval.integer 42) (m.withSymbols (.integer 7) "answer") ∧
        reply answering 0 (.integer 7) "frobnicate" .empty m =
          .error (.error (.noMethod "frobnicate" "Integer"))
            (m.withSymbols (.integer 7) "frobnicate") := by
  have hkeeps : answering.Keeps Extends := by
    refine ⟨fun _ _ _ _ args => ?_, fun _ _ _ _ => .pure _⟩
    exact (Eval.keeps_check args _).bind fun _ => .pure _
  obtain ⟨m₀, hm₀, hall⟩ := dispatch_by_text .standard (by decide) answering hkeeps
  obtain ⟨hsize₀, -⟩ := hall _ _ .start
  obtain ⟨hsize, hanswers⟩ := hall _ _ (.define (("Integer", "answer"), .native "answer") .start)
  refine ⟨hkeeps, m₀, hm₀, ?_, ?_, ?_⟩
  · have hnew : ("Integer", "answer") ∉ (Builtin.definitions.map Prod.fst).toFinset := by
      rw [List.mem_toFinset]
      decide
    rw [hsize, hsize₀, List.nil_append, List.append_nil, List.map_append, List.toFinset_append,
      List.map_cons, List.map_nil, List.toFinset_cons, List.toFinset_nil, Finset.union_insert,
      Finset.union_empty, Finset.card_insert_of_notMem hnew]
  · exact (hanswers (.integer 7) trivial "answer" .empty 0).own (.native "answer") (by decide)
  · refine (hanswers (.integer 7) trivial "frobnicate" .empty 0).missing ⟨?_, ?_⟩ ?_
    · decide
    · decide
    · rintro o ⟨⟩

end Machine

end LateBinding
