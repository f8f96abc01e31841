import LateBinding.Proofs.Renaming.Composition
import LateBinding.Proofs.Renaming.Send
import LateBinding.Session

/-! # Configurations do not change meaning

A configuration decides which names a symbol table knows from the start and whether it counts. A
program that works on one runtime through its operations comes to the same on every other: equal
failures, and answers and registers that stand for each other.
-/

namespace LateBinding

open Eval Renaming

inductive Message
  | held (number : ℕ)
  | named (name : String)

/-- What a program can have done. Values obtained before are told by the number of the request that
they answered. -/
inductive Request
  | nil
  | bool (b : Bool)
  | integer (n : Int64)
  | float (d : Double)
  | string (text : String)
  | regexp (source : String)
  | array (items : List ℕ)
  | hash (entries : List (ℕ × ℕ))
  | object (cls : String) (fields : List (String × ℕ))
  | block (b : Block) (isLambda : Bool)
  /-- A symbol of another table than that of the runtime. -/
  | foreign (table place : ℕ) (name : String)
  | intern (name : String)
  | send (receiver : ℕ) (message : Message) (args : List ℕ) (keywords : Bool)
  | respondTo (receiver : ℕ) (message : Message)
  | toAry (value : ℕ) (strict : Bool)
  | toStr (value : ℕ)
  | toInt (value : ℕ)
  | call (proc : ℕ) (args : List ℕ) (keywords : Bool)
  | bind (args : List ℕ) (keywords : Bool) (min : ℕ) (max : Option ℕ) (spread : Bool)
  | equal (a b : ℕ)
  | same (a b : ℕ)
  | inspect (value : ℕ)
  | display (value : ℕ)
  | lastMatch
  | setLastMatch (value : ℕ)

def heldAt (held : List Value) (number : ℕ) : Value := held[number]?.getD .nil

def Args.ofHeld (held : List Value) (numbers : List ℕ) (keywords : Bool) : Args :=
  ⟨numbers.map (heldAt held), keywords⟩

def Value.symbol? : Value → Option Symbol
  | .symbol s => some s
  | _ => none

def Message.symbol? (held : List Value) : Message → Eval (Option Symbol)
  | .held number => return (heldAt held number).symbol?
  | .named name => return some (← Eval.intern name)

/-- Runs a request with a way to send messages and to call procs. A message that is no symbol and a
proc that is none are answered with `nil`. -/
def Request.run (send : Sender) (call : Proc → Args → Eval Value) (held : List Value) :
    Request → Eval Value
  | .nil => return .nil
  | .bool b => return .bool b
  | .integer n => return .integer n
  | .float d => return .float d
  | .string text => newString text
  | .regexp source => return .regexp ⟨← onHeap (·.fresh), source⟩
  | .array items => newArray (items.map (heldAt held))
  | .hash entries => do
    let (ref, made) ← orEndless ((← heap).hashOf?
      (entries.map fun (k, v) => (heldAt held k, heldAt held v)))
    setHeap fun _ => made
    return .hash ref
  | .object cls fields => do
    let cls ← Eval.intern cls
    SystemMethod.newObject cls
      (← SystemMethod.internFields (fields.map fun (name, v) => (name, heldAt held v)))
  | .block b isLambda => newProc (.block b) isLambda
  | .foreign table place name => return .symbol ⟨⟨table + 1, place⟩, name⟩
  | .intern name => return .symbol (← Eval.intern name)
  | .send receiver message args keywords => do
    match ← message.symbol? held with
    | some s => send (heldAt held receiver) s (.ofHeld held args keywords)
    | none => return .nil
  | .respondTo receiver message => do
    match ← message.symbol? held with
    | some s => return .bool (← Eval.respondsTo (heldAt held receiver) s)
    | none => return .nil
  | .toAry value strict => return .array (← Eval.toAry send (heldAt held value) strict)
  | .toStr value => return .string (← Eval.toStr send (heldAt held value))
  | .toInt value => return .integer (← Eval.toInt send (heldAt held value))
  | .call proc args keywords =>
    match heldAt held proc with
    | .proc p => call p (.ofHeld held args keywords)
    | _ => return .nil
  | .bind args keywords min max spread => do
    newArray (← bindBlock send (.ofHeld held args keywords) min max spread)
  | .equal a b => return .bool (← orEndless ((← heap).eql? none (heldAt held a) (heldAt held b)))
  | .same a b => return .bool ((← heap).same (heldAt held a) (heldAt held b))
  | .inspect value => do newString (← orEndless ((← heap).inspect? (heldAt held value)))
  | .display value => do newString (← orEndless ((← heap).display? (heldAt held value)))
  | .lastMatch => return (← get).lastMatch
  | .setLastMatch value => do
    Eval.setLastMatch (heldAt held value)
    return .nil

/-- Native code that is made of requests, the values that it was given coming first. -/
inductive Script
  | answer (value : ℕ)
  | fail (e : RunError)
  | ask (request : Request) (rest : Script)
  | branch (condition : ℕ) (yes no : Script)

def Script.run (send : Sender) (held : List Value) : Script → Eval Value
  | .answer value => return heldAt held value
  | .fail e => Eval.fail e
  | .ask request rest => do
    let v ← request.run send (fun p => send.byName (.proc p) "call") held
    rest.run send (held ++ [v])
  | .branch condition yes no =>
    if (heldAt held condition).isTruthy then yes.run send held else no.run send held

/-- A host with scripts for its native code. A method is given its receiver, whether there are
keywords, and its arguments. -/
def Host.scripted (system : OperatingSystem) (methods blocks : String → Script) (stack : ℕ) :
    Host where
  system := system
  method name send receiver args :=
    (methods name).run send (receiver :: .bool args.keywords :: args.items)
  block code send items := (blocks code).run send items
  stack := stack

/-- The answers so far, each with what it left in the register of its environment. -/
structure History where
  session : Session
  log : List (Except Fault Value × Value)

namespace History

def start (m : Machine) (environments : ℕ) : History := ⟨.ofMachine m environments, []⟩

/-- The values that the requests were answered with, `nil` in place of failures. -/
def held (h : History) : List Value := h.log.map fun entry => entry.1.toOption.getD .nil

def step (host : Host) (h : History) (entry : ℕ × Request) : History :=
  let (answer, session) :=
    h.session.run entry.1 (entry.2.run host.send (callProc host host.send) h.held)
  ⟨session, h.log ++ [(answer, session.register entry.1)]⟩

def run (host : Host) (h : History) (requests : List (ℕ × Request)) : History :=
  requests.foldl (step host) h

/-- A program on a machine, with some definitions of its own and its procs at these addresses. -/
def ofProgram (host : Host) (m : Machine) (defs : List Definition) (address : ℕ → ℕ)
    (environments : ℕ) (requests : List (ℕ × Request)) : History :=
  (start ((defs.foldl Machine.addDefinition m).placed address) environments).run host requests

def texts (h : History) : List (Option String) :=
  h.log.map fun entry =>
    match entry.1 with
    | .ok (.string s) => some s.text
    | _ => none

def placed (h : History) (address : ℕ → ℕ) : History :=
  ⟨⟨h.session.machine.placed address, h.session.registers⟩, h.log⟩

end History

namespace Renaming

variable {ρ : Renaming} {send : Sender} {host : Host} {held held' : List Value}

theorem Items.values_heldAt (h : ρ.Items held held') (number : ℕ) :
    ρ.Values (heldAt held number) (heldAt held' number) :=
  getD_of_rel (getElem?_of_forall₂ h number) .nil

theorem Items.map_heldAt (h : ρ.Items held held') (numbers : List ℕ) :
    ρ.Items (numbers.map (heldAt held)) (numbers.map (heldAt held')) := by
  induction numbers with
  | nil => exact .nil
  | cons n numbers ih => exact .cons (h.values_heldAt n) ih

theorem Items.entries (h : ρ.Items held held') (es : List (ℕ × ℕ)) :
    Entries.Related ρ.Values ρ.Values
      (es.map fun (k, v) => (heldAt held k, heldAt held v))
      (es.map fun (k, v) => (heldAt held' k, heldAt held' v)) := by
  induction es with
  | nil => exact .nil
  | cons e es ih => exact .cons ⟨h.values_heldAt e.1, h.values_heldAt e.2⟩ ih

theorem Items.fields (h : ρ.Items held held') (fs : List (String × ℕ)) :
    Entries.Related Eq ρ.Values (fs.map fun (name, v) => (name, heldAt held v))
      (fs.map fun (name, v) => (name, heldAt held' v)) := by
  induction fs with
  | nil => exact .nil
  | cons f fs ih => exact .cons ⟨rfl, h.values_heldAt f.2⟩ ih

theorem Items.ofHeld (h : ρ.Items held held') (numbers : List ℕ) (keywords : Bool) :
    ρ.Arguments (.ofHeld held numbers keywords) (.ofHeld held' numbers keywords) :=
  ⟨h.map_heldAt numbers, rfl⟩

theorem Values.symbol? {v v' : Value} (hv : ρ.Values v v') :
    Option.Rel ρ.Pairs v.symbol? v'.symbol? := by
  cases hv with
  | symbol hs => exact .some hs
  | _ => exact .none

theorem agree_symbol? (h : ρ.Items held held') (message : Message) :
    ρ.Agree (fun σ => Option.Rel σ.Pairs) (message.symbol? held) (message.symbol? held') := by
  cases message with
  | named name => exact (agree_intern name).bind fun σ s s' _ hs => agree_pure (.some hs)
  | held number => exact agree_pure (h.values_heldAt number).symbol?

theorem agree_request (hs : send.Uniform) {call : Proc → Args → Eval Value}
    (hcall : ∀ {p p' : Proc} {args args' : Args}, ρ.Values (.proc p) (.proc p') →
      ρ.Arguments args args' →
      ρ.Agree Renaming.Values (call p args) (call p' args'))
    (h : ρ.Items held held') (request : Request) :
    ρ.Agree Renaming.Values (request.run send call held) (request.run send call held') := by
  cases request with
  | nil => exact agree_pure .nil
  | bool b => exact agree_pure (.bool b)
  | integer n => exact agree_pure (.integer n)
  | float d => exact agree_pure (.float d)
  | string text => exact (agreeStill_newString rfl).agree
  | regexp source => exact agreeStill_fresh.bind_eq fun id => agree_pure (.regexp _)
  | array items => exact (agreeStill_newArray (h.map_heldAt items)).agree
  | hash entries =>
    refine agreeStill_heap.bind fun _ _ hh =>
      (agreeStill_orEndless (hh.hashOf? (h.entries entries))).bind ?_
    rintro ⟨r, made⟩ ⟨_, made'⟩ ⟨rfl, hmade⟩
    exact (agreeStill_setHeap fun _ _ _ => hmade).bind_eq fun _ => agree_pure (.hash r)
  | object cls fields =>
    refine (agree_intern cls).bind fun σ c c' hle hc => ?_
    refine (SystemMethod.agree_internFields ((h.mono hle).fields fields)).bind
      fun τ fs fs' hle' hfs => ?_
    exact (SystemMethod.agreeStill_newObject (hc.mono hle') hfs).agree
  | block b isLambda =>
    exact agreeStill_fresh.bind_eq fun id => agree_pure (.proc id (.block b) isLambda)
  | foreign table place name => exact agree_pure (.symbol (.foreign (Nat.succ_ne_zero table)))
  | intern name => exact (agree_intern name).bind fun σ s s' _ hs => agree_pure (.symbol hs)
  | send receiver message args keywords =>
    refine (agree_symbol? h message).bind fun σ x x' hle hx => ?_
    cases hx with
    | some hname =>
      exact hs ((h.values_heldAt receiver).mono hle) hname ((h.ofHeld args keywords).mono hle)
    | none => exact agree_pure .nil
  | respondTo receiver message =>
    refine (agree_symbol? h message).bind fun σ x x' hle hx => ?_
    cases hx with
    | some hname =>
      exact (agree_respondsTo ((h.values_heldAt receiver).mono hle) hname).bind_eq fun τ b _ =>
        agree_bool rfl
    | none => exact agree_pure .nil
  | toAry value strict =>
    exact (agree_toAry hs (h.values_heldAt value) strict).bind_eq fun σ r _ => agree_pure (.array r)
  | toStr value =>
    exact (agree_toStr hs (h.values_heldAt value)).bind_eq fun σ s _ => agree_pure (.string s)
  | toInt value =>
    exact (agree_toInt hs (h.values_heldAt value)).bind_eq fun σ n _ => agree_pure (.integer n)
  | call proc args keywords =>
    have hv := h.values_heldAt proc
    dsimp only [Request.run]
    generalize heldAt held proc = v at hv ⊢
    generalize heldAt held' proc = v' at hv ⊢
    cases hv with
    | proc id bodies isLambda => exact hcall (.proc id bodies isLambda) (h.ofHeld args keywords)
    | _ => exact agree_pure .nil
  | bind args keywords min max spread =>
    refine (agree_bindBlock hs (h.ofHeld args keywords) min max spread).bind
      fun σ items items' _ hitems => ?_
    exact (agreeStill_newArray hitems).agree
  | equal a b =>
    refine agreeStill_heap.bind fun _ _ hh => ?_
    exact (agreeStill_orEndless_eq (hh.eql?_eq none (h.values_heldAt a)
      (h.values_heldAt b))).bind_eq fun _ =>
      agree_bool rfl
  | same a b =>
    exact agreeStill_heap.bind fun _ _ hh =>
      agree_bool (hh.same_eq (h.values_heldAt a) (h.values_heldAt b))
  | inspect value =>
    refine agreeStill_heap.bind fun _ _ hh => ?_
    exact (agreeStill_orEndless_eq (hh.inspect?_eq (h.values_heldAt value))).bind_eq fun _ =>
      (agreeStill_newString rfl).agree
  | display value =>
    refine agreeStill_heap.bind fun _ _ hh => ?_
    exact (agreeStill_orEndless_eq (hh.display?_eq (h.values_heldAt value))).bind_eq fun _ =>
      (agreeStill_newString rfl).agree
  | lastMatch => exact agreeStill_get.bind fun m m' hm => agree_pure hm.lastMatch
  | setLastMatch value =>
    exact (agreeStill_setLastMatch (h.values_heldAt value)).bind_eq fun _ => agree_pure .nil

theorem agree_script (hs : send.Uniform) (h : ρ.Items held held') (script : Script) :
    ρ.Agree Renaming.Values (script.run send held) (script.run send held') := by
  -- each answer is one more value to hold, under a renaming that has grown
  induction script generalizing ρ held held' with
  | answer value => exact agree_pure (h.values_heldAt value)
  | fail e => exact agree_fail rfl
  | ask request rest ih =>
    refine (agree_request hs (fun hp hargs => agree_byName hs hp _ hargs) h request).bind
      fun σ v v' hle hv => ?_
    exact ih (List.rel_append (h.mono hle) (.cons hv .nil))
  | branch condition yes no ihyes ihno =>
    unfold Script.run
    rw [(h.values_heldAt condition).isTruthy_eq]
    split
    · exact ihyes h
    · exact ihno h

end Renaming

theorem Host.uniform_scripted (system : OperatingSystem) (methods blocks : String → Script)
    (stack : ℕ) : (Host.scripted system methods blocks stack).Uniform where
  method name _ hs _ _ _ _ _ hself hargs :=
    agree_script hs (.cons hself (.cons (hargs.keywords ▸ .bool _) hargs.items)) (methods name)
  block code _ hs _ _ _ hitems := agree_script hs hitems (blocks code)

namespace Renaming

variable {ρ : Renaming} {m m' : Machine} {host : Host}

theorem Machines.addDefinition (hm : ρ.Machines m m') (d : Definition) :
    ∃ σ : Renaming, σ.Machines (m.addDefinition d) (m'.addDefinition d) := by
  obtain ⟨hcls, hm₁⟩ := hm.intern d.1.1
  obtain ⟨hname, hm₂⟩ := hm₁.intern d.1.2
  have hcls := hcls.mono (le_intern _ d.1.2)
  refine ⟨_, { hm₂ with methods := ?_ }⟩
  exact hm₂.methods.put (fun hk => isAt_eq hcls hname hk) ⟨hcls, hname⟩ rfl

theorem Machines.foldl_addDefinition (hm : ρ.Machines m m') (ds : List Definition) :
    ∃ σ : Renaming, σ.Machines (ds.foldl Machine.addDefinition m)
      (ds.foldl Machine.addDefinition m') := by
  induction ds generalizing ρ m m' with
  | nil => exact ⟨ρ, hm⟩
  | cons d ds ih =>
    obtain ⟨σ, hσ⟩ := hm.addDefinition d
    exact ih hσ

end Renaming

theorem Machine.tag_bare (c : Config) : (Machine.bare c).symbols.tag = 0 := by
  have hbase : (if c.preinternKnownSymbols then SymbolTable.known 0 else .empty 0).tag = 0 := by
    split
    · exact SymbolTable.tag_known 0
    · rfl
  exact (SymbolTable.extends_intern _ Builtin.objectClass).tag.trans hbase

/-- Before any method is defined, two machines know the class of all objects. -/
def Renaming.bare (c c' : Config) : Renaming where
  left := (Machine.bare c).symbols
  right := (Machine.bare c').symbols
  canonical_left := (Machine.defines_bare c).canonical
  canonical_right := (Machine.defines_bare c').canonical
  tag_left := Machine.tag_bare c
  tag_right := Machine.tag_bare c'

theorem Renaming.machines_bare (c c' : Config) :
    (Renaming.bare c c').Machines (Machine.bare c) (Machine.bare c') where
  left := rfl
  right := rfl
  methods := .nil
  objectClass := pairs_of_lookup? (Machine.defines_bare c).object (Machine.defines_bare c').object
  heap := .empty _
  lastMatch := .nil
  users := rfl
  groups := rfl

namespace Renaming

variable {ρ : Renaming} {host : Host}

inductive Answers (ρ : Renaming) : Except Fault Value → Except Fault Value → Prop
  | ok {v v' : Value} (values : ρ.Values v v') : Answers ρ (.ok v) (.ok v')
  | error (e : Fault) : Answers ρ (.error e) (.error e)

/-- Histories that came to the same: all that is on the heaps stands for each other, with procs at
the same addresses, and so does what each request was answered and what it left in the register. -/
structure Histories (ρ : Renaming) (h h' : History) : Prop where
  machines : ρ.Machines h.session.machine h'.session.machine
  registers : ρ.Items h.session.registers h'.session.registers
  log : Entries.Related ρ.Answers ρ.Values h.log h'.log

theorem Answers.comp {σ : Renaming} (hmid : ρ.right = σ.left) {a b c : Except Fault Value}
    (h : ρ.Answers a b) (h' : σ.Answers b c) : (ρ.comp σ).Answers a c := by
  cases h with
  | ok hv =>
    cases h' with
    | ok hv' => exact .ok (hv.comp hmid hv')
  | error e =>
    cases h' with
    | error _ => exact .error e

/-- So did histories that came to the same as one in the middle. -/
theorem Histories.comp {σ : Renaming} {h₁ h₂ h₃ : History} (h : ρ.Histories h₁ h₂)
    (h' : σ.Histories h₂ h₃) : (ρ.comp σ).Histories h₁ h₃ := by
  have hmid : ρ.right = σ.left := h.machines.right.symm.trans h'.machines.left
  refine ⟨h.machines.comp h'.machines, Items.comp hmid h.registers h'.registers, ?_⟩
  exact forall₂_comp h.log h'.log fun _ _ _ he he' => ⟨he.1.comp hmid he'.1, he.2.comp hmid he'.2⟩

theorem Histories.placed {h h' : History} (hh : ρ.Histories h h') (address : ℕ → ℕ) :
    ρ.Histories (h.placed address) (h'.placed address) :=
  ⟨hh.machines.placed address, hh.registers, hh.log⟩

theorem Histories.start {m m' : Machine} (hm : ρ.Machines m m') (environments : ℕ) :
    ρ.Histories (.start m environments) (.start m' environments) where
  machines := hm
  registers := List.forall₂_same.mpr fun _ hv => List.eq_of_mem_replicate hv ▸ .nil
  log := .nil

theorem Agree.run {x y : Eval Value} (hxy : ρ.Agree Renaming.Values x y) {s s' : Session}
    (hm : ρ.Machines s.machine s'.machine) (hregisters : ρ.Items s.registers s'.registers)
    (env : ℕ) : ∃ σ, ρ ≤ σ ∧ σ.Answers (s.run env x).1 (s'.run env y).1 ∧
      σ.Machines (s.run env x).2.machine (s'.run env y).2.machine ∧
      σ.Items (s.run env x).2.registers (s'.run env y).2.registers := by
  have hregister : ρ.Values (s.register env) (s'.register env) :=
    getD_of_rel (getElem?_of_forall₂ hregisters env) .nil
  have hrun := hxy { s.machine with lastMatch := s.register env }
    { s'.machine with lastMatch := s'.register env } { hm with lastMatch := hregister }
  unfold Session.run
  dsimp only
  generalize x { s.machine with lastMatch := s.register env } = r at hrun ⊢
  generalize y { s'.machine with lastMatch := s'.register env } = r' at hrun ⊢
  cases hrun with
  | @ok σ v v' m m' hle hm hv =>
    exact ⟨σ, hle, .ok hv, hm, set_of_forall₂ (Items.mono hregisters hle) hm.lastMatch env⟩
  | @error σ e m m' hle hm =>
    exact ⟨σ, hle, .error e, hm, set_of_forall₂ (Items.mono hregisters hle) hm.lastMatch env⟩

theorem Answers.mono {σ : Renaming} {a a' : Except Fault Value} (ha : ρ.Answers a a')
    (hle : ρ ≤ σ) : σ.Answers a a' := by
  cases ha with
  | ok hv => exact .ok (hv.mono hle)
  | error e => exact .error e

theorem Histories.held {h h' : History} (hh : ρ.Histories h h') : ρ.Items h.held h'.held := by
  refine List.rel_map (fun entry entry' he => ?_) hh.log
  obtain ⟨answer, register⟩ := entry
  obtain ⟨answer', register'⟩ := entry'
  obtain ⟨hanswer, -⟩ := he
  cases hanswer with
  | ok hv => exact hv
  | error e => exact .nil

theorem Histories.step (hh : host.Uniform) {h h' : History} (hhist : ρ.Histories h h')
    (entry : ℕ × Request) :
    ∃ σ : Renaming, σ.Histories (h.step host entry) (h'.step host entry) := by
  have hsend : host.send.Uniform := hh.sendWithin host.stack
  have hrequest :=
    agree_request hsend (fun hp hargs => agree_callProc hh hsend hp hargs) hhist.held entry.2
  obtain ⟨σ, hle, hanswers, hm, hregisters⟩ := hrequest.run hhist.machines hhist.registers entry.1
  refine ⟨σ, hm, hregisters, ?_⟩
  refine List.rel_append (hhist.log.imp fun _ _ he => ⟨he.1.mono hle, he.2.mono hle⟩)
    (.cons ⟨hanswers, ?_⟩ .nil)
  exact getD_of_rel (getElem?_of_forall₂ hregisters entry.1) .nil

theorem Histories.run (hh : host.Uniform) {h h' : History} (hhist : ρ.Histories h h')
    (requests : List (ℕ × Request)) :
    ∃ σ : Renaming, σ.Histories (h.run host requests) (h'.run host requests) := by
  induction requests generalizing ρ h h' with
  | nil => exact ⟨ρ, hhist⟩
  | cons entry requests ih =>
    obtain ⟨σ, hσ⟩ := hhist.step hh entry
    exact ih hσ

/-- From machines of valid configurations, with procs at the same addresses, a program comes to the
same. -/
theorem exists_histories (hh : host.Uniform) {c c' : Config} {m m' : Machine}
    (hm : Machine.ofConfig c = .ok m) (hm' : Machine.ofConfig c' = .ok m') (defs : List Definition)
    (address : ℕ → ℕ) (environments : ℕ) (requests : List (ℕ × Request)) :
    ∃ ρ : Renaming, ρ.Histories (.ofProgram host m defs address environments requests)
      (.ofProgram host m' defs address environments requests) := by
  obtain rfl := Machine.ofConfig_eq hm
  obtain rfl := Machine.ofConfig_eq hm'
  rw [Machine.build_eq, Machine.build_eq]
  obtain ⟨ρ, hρ⟩ := (Renaming.machines_bare c c').foldl_addDefinition Builtin.definitions
  obtain ⟨σ, hσ⟩ := hρ.foldl_addDefinition defs
  exact (Histories.start (hσ.placed address) environments).run hh requests

theorem Histories.texts_eq {h h' : History} (hh : ρ.Histories h h') : h.texts = h'.texts := by
  refine map_eq_of_forall₂ hh.log fun entry entry' he => ?_
  obtain ⟨answer, register⟩ := entry
  obtain ⟨answer', register'⟩ := entry'
  obtain ⟨hanswer, -⟩ := he
  cases hanswer with
  | ok hv => cases hv <;> rfl
  | error e => rfl

end Renaming

/-- Whatever two configurations are, as long as they are valid: after the same definitions, any
requests in any environments are answered alike and leave the like in the registers, wherever the
procs lie, as long as it is the same place. With procs at different places it makes no difference
either that there are two configurations. -/
theorem configurations_agree {host : Host} (hh : host.Uniform) {c c' : Config} {m m' : Machine}
    (hm : Machine.ofConfig c = .ok m) (hm' : Machine.ofConfig c' = .ok m') (defs : List Definition)
    (environments : ℕ) (requests : List (ℕ × Request)) :
    (∀ address, ∃ ρ : Renaming, ρ.Histories (.ofProgram host m defs address environments requests)
      (.ofProgram host m' defs address environments requests)) ∧
    ∀ address address',
      (∃ ρ : Renaming, ρ.Histories (.ofProgram host m defs address environments requests)
        ((History.ofProgram host m' defs address' environments requests).placed address)) ↔
      ∃ ρ : Renaming, ρ.Histories (.ofProgram host m defs address environments requests)
        ((History.ofProgram host m defs address' environments requests).placed address) := by
  constructor
  · exact fun address => exists_histories hh hm hm' defs address environments requests
  · intro address address'
    constructor
    · rintro ⟨ρ, hρ⟩
      obtain ⟨σ, hσ⟩ := exists_histories hh hm' hm defs address' environments requests
      exact ⟨_, hρ.comp (hσ.placed address)⟩
    · rintro ⟨ρ, hρ⟩
      obtain ⟨σ, hσ⟩ := exists_histories hh hm hm' defs address' environments requests
      exact ⟨_, hρ.comp (hσ.placed address)⟩

def Host.asking : Host :=
  .scripted (.ofLists [] [] [])
    (fun _ => .ask (.send 0 (.named "upcase") [] false) (.ask (.intern "<=") (.answer 2)))
    (fun _ => .answer 0) 4

def History.asked (c : Config) : History :=
  .ofProgram .asking (.build c) [(("Symbol", "loud"), .native "loud")] id 2
    [(0, .intern "point"), (1, .send 0 (.named "loud") [] false), (0, .toStr 1)]

/-- One table starts with the class of all objects only, the other with the names that dispatch
uses. -/
theorem configurations_agree_asking :
    let sparse : Config := ⟨1, false, false⟩
    ((Machine.bare sparse).symbols.size = 1 ∧ (Machine.bare .standard).symbols.size = 45) ∧
      (History.asked .standard).log.map (·.1.toOption.isSome) = [true, true, false] ∧
      Host.asking.Uniform ∧ Machine.ofConfig sparse = .ok (.build sparse) ∧
      Machine.ofConfig .standard = .ok (.build .standard) ∧
      ∃ ρ : Renaming, ρ.Histories (.asked sparse) (.asked .standard) := by
  intro sparse
  have hsparse : Machine.ofConfig sparse = .ok (.build sparse) := rfl
  have hstandard : Machine.ofConfig .standard = .ok (.build .standard) := rfl
  have hasking : Host.asking.Uniform := Host.uniform_scripted _ _ _ _
  refine ⟨?_, ?_, hasking, hsparse, hstandard,
    (configurations_agree hasking hsparse hstandard _ 2 _).1 id⟩
  · decide +kernel
  · decide +kernel

def History.showing (c : Config) (address : ℕ) : History :=
  .ofProgram .asking (.build c) [] (fun _ => address) 1
    [(0, .block ⟨0, none, false, "idle"⟩ false), (0, .inspect 0)]

/-- The literal form of a block tells its address. -/
theorem inspect_block_ne :
    Machine.ofConfig ⟨1, false, false⟩ = .ok (.build ⟨1, false, false⟩) ∧
      Machine.ofConfig .standard = .ok (.build .standard) ∧
      ¬ ∃ ρ : Renaming, ρ.Histories (.showing ⟨1, false, false⟩ 0x55d0c3a1eb40)
        ((History.showing .standard 0x7f52a8001c20).placed fun _ => 0x55d0c3a1eb40) := by
  refine ⟨rfl, rfl, ?_⟩
  rintro ⟨ρ, hρ⟩
  have htexts := hρ.texts_eq
  revert htexts
  decide +kernel

end LateBinding
