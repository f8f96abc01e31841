import LateBinding.Proofs.Machine.Naming
import LateBinding.Proofs.Method.Blind

/-! # Symbols and their strings

A symbol answers like a string with its name. The methods for parts and searches run the same code
on the name; all they can differ in is the string that a symbol keeps of its own, which none of them
looks at. The methods that derive a name are left to a string, and the answer is interned.
-/

namespace LateBinding

open Eval

variable {m m' : Machine} {host : Host} {send : Sender} {n : ℕ} {defs : List Definition}
  {receiver : Value} {name : String} {args : Args} {s : Symbol} {t : Str} {α β : Type}

namespace Machine

def countHit (m : Machine) : Machine := { m with symbols := m.symbols.countHit }

theorem Defines.registered (hd : m.Defines defs) {d : Definition} (h : d ∈ defs) :
    d.1.1 ∈ m.symbols.registered ∧ d.1.2 ∈ m.symbols.registered := by
  have hkey : d.1 ∈ ((Entries.tabulate defs).map Prod.fst).toFinset := by
    rw [(Entries.keys_tabulate defs).2, List.mem_toFinset]
    exact List.mem_map_of_mem h
  rw [List.mem_toFinset, ← hd.texts, List.map_map] at hkey
  obtain ⟨e, he, heq⟩ := List.mem_map.mp hkey
  obtain ⟨hcls, hname⟩ := hd.keys _ (List.mem_map_of_mem he)
  rw [← heq]
  constructor
  · exact Option.isSome_iff_exists.mpr ⟨_, hd.canonical.mem_symbols_iff.mp hcls⟩
  · exact Option.isSome_iff_exists.mpr ⟨_, hd.canonical.mem_symbols_iff.mp hname⟩

theorem extends_countHit (m : Machine) : m.Extends m.countHit :=
  ⟨rfl, rfl, m.symbols.extends_countHit⟩

theorem extends_countHit_countHit (m : Machine) : m.Extends m.countHit.countHit :=
  Frame.trans m.extends_countHit m.countHit.extends_countHit

theorem intern_countHit (m : Machine) (name : String) :
    (m.countHit.symbols.intern name).1 = (m.symbols.intern name).1 :=
  SymbolTable.intern_congr m.symbols.entries_countHit m.extends_countHit.symbols.tag

theorem after_intern (h : name ∈ m.symbols.registered) : (intern name).after m = m.countHit := by
  change { m with symbols := (m.symbols.intern name).2 } = m.countHit
  rw [SymbolTable.intern_of_mem_registered h]
  rfl

section Found

variable {method : Method} (hd : m.Defines defs)

include hd

theorem Defines.withSymbols_eq (hr : ∀ o, receiver ≠ .object o)
    (hfound : lastDefined defs receiver.className name = some method) :
    m.withSymbols receiver name = m.countHit.countHit := by
  have hmem := mem_of_lastDefined hfound
  have hcls := ((hd.extends m.extends_countHit).registered hmem).1
  unfold withSymbols
  rw [after_intern (hd.registered hmem).2, ← after_intern hcls]
  cases receiver with
  | object o => exact absurd rfl (hr o)
  | _ => rfl

/-- What becomes of the machine when a method is found in the class of a value does not tell which
class it was. -/
theorem Defines.reply_found_eq (hr : ∀ o, receiver ≠ .object o)
    (hfound : lastDefined defs receiver.className name = some method) :
    reply host n receiver name args m =
      method.run host (sendWithin host n) receiver args m.countHit.countHit := by
  have hknows : m.Knows receiver := by
    cases receiver with
    | object o => exact absurd rfl (hr o)
    | _ => trivial
  rw [hd.reply_eq hknows, hfound, hd.withSymbols_eq hr hfound]
  rfl

theorem Defines.reply_string_eq (hfound : lastDefined defs "String" name = some method) :
    reply host n (.string t) name args m =
      method.run host (sendWithin host n) (.string t) args m.countHit.countHit :=
  hd.reply_found_eq (by simp) hfound

theorem Defines.reply_symbol_eq (hfound : lastDefined defs "Symbol" name = some method) :
    reply host n (.symbol s) name args m =
      method.run host (sendWithin host n) (.symbol s) args m.countHit.countHit :=
  hd.reply_found_eq (by simp) hfound

end Found

end Machine

/-- What a program sees of a computation: the answer or the fault, and the register of the last
match. -/
def Eval.outcome : EStateM.Result Fault Machine α → Except Fault α × Value
  | .ok a m => (.ok a, m.lastMatch)
  | .error e m => (.error e, m.lastMatch)

theorem Eval.outcome_withStrings (st : StringStore) (r : EStateM.Result Fault Machine α) :
    outcome (withStrings st r) = outcome r := by
  cases r <;> rfl

theorem SymbolMethod.outcome_nameString_bind (hd : m.Defines Builtin.definitions)
    (hs : m.heap.strings.Reads s) {f : String → Eval α} (hf : Blind (f s.name)) :
    outcome ((nameString s >>= fun str => f str.text) m) = outcome (f s.name m) := by
  have hname : nameString s m = .ok (m.heap.strings.nameOf s).1
      (m.withStrings (m.heap.strings.nameOf s).2) := rfl
  rw [bind_of_ok hname, hs.text_nameOf, hf m hd, outcome_withStrings]

theorem SymbolMethod.outcome_ask (hd : m.Defines Builtin.definitions) (hs : m.heap.strings.Reads s)
    {f : String → Eval Bool} (hblind : Blind (f s.name))
    (hmeets : (f s.name).Meets (.steady True) fun _ => True) :
    outcome ((nameString s >>= fun str => f str.text) >>= (fun b => pure (.bool b)) <| m) =
      outcome ((f s.name >>= fun b => pure (Value.bool b)) m) := by
  rw [bind_assoc]
  exact outcome_nameString_bind (f := fun text => f text >>= fun b => pure (Value.bool b)) hd hs
    (hblind.bind hmeets fun b => blind_pure _)

/-- Methods of symbols with those of strings that they are like. -/
def SymbolMethod.likenesses : List (SymbolMethod × StringMethod) :=
  [(.length, .length), (.ref, .ref), (.search, .search), (.startsWith, .startsWith),
    (.endsWith, .endsWith)]

theorem outcome_run_eq (hd : m.Defines Builtin.definitions) (hs : m.heap.strings.Reads s)
    (ht : t.text = s.name) (n : ℕ) (args : Args) {k : SymbolMethod × StringMethod}
    (hk : k ∈ SymbolMethod.likenesses) :
    outcome (k.1.run (sendWithin host n) (.symbol s) args m) =
      outcome (k.2.run (sendWithin host n) (.string t) args m) := by
  obtain ⟨id, text⟩ := t
  subst ht
  have hsends := Contract.sends_steady host n True
  simp only [SymbolMethod.likenesses, List.mem_cons, List.not_mem_nil, or_false] at hk
  rcases hk with rfl | rfl | rfl | rfl | rfl
  -- the length and the parts are those of the name, whether or not the symbol has a string
  · rfl
  · rfl
  · obtain ⟨items, keywords⟩ := args
    rcases items with _ | ⟨v, _ | ⟨w, rest⟩⟩
    · rfl
    · cases v with
      | regexp r =>
        exact SymbolMethod.outcome_nameString_bind
          (f := fun text => StringMethod.matchOffset text (.regexp r)) hd hs
          (StringMethod.blind_matchOffset _ _)
      | _ => rfl
    · rfl
  · refine SymbolMethod.outcome_ask
      (f := fun text => StringMethod.anyAtFront _ text args.items) hd hs ?_ ?_
    · exact StringMethod.blind_anyAtFront n _ _
    · exact StringMethod.meets_anyAtFront hsends _ (fun _ _ => trivial) fun _ _ =>
      StringMethod.maySet
  · refine SymbolMethod.outcome_ask
      (f := fun text => StringMethod.anyAtEnd _ text args.items) hd hs ?_ ?_
    · exact StringMethod.blind_anyAtEnd n _ _
    · exact StringMethod.meets_anyAtEnd hsends _ fun _ _ => trivial

theorem exists_likeness :
    ∀ name ∈ ["length", "size", "[]", "slice", "=~", "start_with?", "end_with?"],
    ∃ k ∈ SymbolMethod.likenesses,
      lastDefined Builtin.definitions "Symbol" name = some (.builtin (.symbol k.1)) ∧
      lastDefined Builtin.definitions "String" name = some (.builtin (.string k.2)) := by
  decide

/-- The contents are the same; the strings may differ. -/
def Heap.SameContents (h h' : Heap) : Prop :=
  h.arrays = h'.arrays ∧ h.hashes = h'.hashes ∧ h.objects = h'.objects ∧ h.address = h'.address

theorem Heap.SameContents.inspect?_eq {h h' : Heap} (hh : h.SameContents h') (v : Value) :
    h.inspect? v = h'.inspect? v := by
  obtain ⟨harrays, hhashes, hobjects, haddress⟩ := hh
  have hdepth : h.depth = h'.depth := by
    unfold depth
    rw [harrays, hhashes, hobjects]
  have hliteral : h.literal? = h'.literal? := by
    funext text v
    cases v with
    | array r | hash r | object o =>
      simp only [literal?, array, hash, fields, harrays, hhashes, hobjects]
    | proc p => simp only [literal?, inspectProc, haddress]
    | _ => rfl
  rw [inspect?, inspect?, hdepth, hliteral]

namespace Eval

def settle : Except Fault α → Machine → EStateM.Result Fault Machine α
  | .ok a, m => .ok a m
  | .error e, m => .error e m

/-- The computation changes nothing, and it looks at the contents of the heap only. -/
def Looks (x : Eval α) : Prop :=
  ∀ m m' : Machine, m.heap.SameContents m'.heap → ∃ r, x m = settle r m ∧ x m' = settle r m'

theorem looks_pure (a : α) : Looks (pure a) := fun _ _ _ => ⟨.ok a, rfl, rfl⟩

theorem looks_fail (e : RunError) : Looks (fail e : Eval α) :=
  fun _ _ _ => ⟨.error (.error e), rfl, rfl⟩

theorem Looks.bind {x : Eval α} {f : α → Eval β} (hx : Looks x) (hf : ∀ a, Looks (f a)) :
    Looks (x >>= f) := by
  intro m m' h
  obtain ⟨r, hm, hm'⟩ := hx m m' h
  cases r with
  | ok a =>
    rw [bind_of_ok hm, bind_of_ok hm']
    exact hf a m m' h
  | error e => exact ⟨.error e, bind_of_error hm, bind_of_error hm'⟩

theorem looks_check (args : Args) (expected : Arity) : Looks (check args expected) := by
  unfold check Args.check
  split
  · exact looks_pure ()
  · exact looks_fail _

theorem looks_inspect (v : Value) : Looks (do orEndless ((← heap).inspect? v)) := by
  intro m m' h
  change ∃ r, orEndless (m.heap.inspect? v) m = settle r m ∧
    orEndless (m'.heap.inspect? v) m' = settle r m'
  rw [← h.inspect?_eq]
  cases m.heap.inspect? v with
  | none => exact ⟨.error .endless, rfl, rfl⟩
  | some text => exact ⟨.ok text, rfl, rfl⟩

end Eval

namespace StringMethod

theorem looks_casingOf (casing : Casing) (options : List Value) :
    Looks (casingOf casing options) := by
  induction options generalizing casing with
  | nil => exact looks_pure _
  | cons v rest ih =>
    unfold casingOf
    cases v with
    | symbol s =>
      dsimp only
      split
      · exact ih _
      · split
        · exact ih _
        · exact looks_fail _
    | _ =>
      intro m m' h
      refine (looks_inspect _).bind (fun text => looks_fail _) m m' h

def derive (k : StringMethod) (text : String) (args : Args) : Eval String :=
  match k with
  | upcase => return (← casing args).upcase text
  | downcase => return (← casing args).downcase text
  | swapcase => return (← casing args).swapcase text
  | capitalize => return (← casing args).capitalize text
  | _ => do
    check args (.exactly 0)
    return LateBinding.succ text

theorem looks_derive (k : StringMethod) (text : String) (args : Args) :
    Looks (k.derive text args) := by
  have hcasing : Looks (casing args) := (looks_check args _).bind fun _ => looks_casingOf _ _
  unfold derive
  split
  · exact hcasing.bind fun _ => looks_pure _
  · exact hcasing.bind fun _ => looks_pure _
  · exact hcasing.bind fun _ => looks_pure _
  · exact hcasing.bind fun _ => looks_pure _
  · exact (looks_check args _).bind fun _ => looks_pure _

end StringMethod

/-- Methods of symbols that derive a name, with the message and the method of strings that they
leave it to. -/
def SymbolMethod.derivations : List (SymbolMethod × String × StringMethod) :=
  [(.succ, "succ", .succ), (.upcase, "upcase", .upcase), (.downcase, "downcase", .downcase),
   (.swapcase, "swapcase", .swapcase), (.capitalize, "capitalize", .capitalize)]

theorem StringMethod.run_derive {k : SymbolMethod × String × StringMethod}
    (hk : k ∈ SymbolMethod.derivations) (send : Sender) (t : Str) (args : Args) :
    k.2.2.run send (.string t) args = k.2.2.derive t.text args >>= newString := by
  simp only [SymbolMethod.derivations, List.mem_cons, List.not_mem_nil, or_false] at hk
  rcases hk with rfl | rfl | rfl | rfl | rfl <;> simp [run, arity?, derive, receiver]

theorem SymbolMethod.run_derive {k : SymbolMethod × String × StringMethod} (hk : k ∈ derivations)
    (send : Sender) (s : Symbol) (args : Args) :
    k.1.run send (.symbol s) args = transform send s k.2.1 args >>= fun x => pure (.symbol x) := by
  simp only [derivations, List.mem_cons, List.not_mem_nil, or_false] at hk
  rcases hk with rfl | rfl | rfl | rfl | rfl <;> rfl

theorem exists_derivation :
    ∀ name ∈ ["succ", "next", "upcase", "downcase", "swapcase", "capitalize"],
    ∃ k ∈ SymbolMethod.derivations,
      lastDefined Builtin.definitions "Symbol" name = some (.builtin (.symbol k.1)) ∧
      lastDefined Builtin.definitions "String" name = some (.builtin (.string k.2.2)) ∧
      lastDefined Builtin.definitions "String" k.2.1 = some (.builtin (.string k.2.2)) := by
  decide

def internDerived (r : Except Fault String) : Eval Value := do
  let u ← settle r
  let _ ← newString u
  return .symbol (← intern u)

theorem SymbolMethod.transform_eq {message : String} {r : Except Fault String}
    (h : send.byName (.string (m.heap.newString s.name).1) message args
      ((newString s.name).after m) = (settle r >>= newString) m') :
    (transform send s message args >>= fun x => pure (.symbol x)) m = internDerived r m' := by
  have hfresh : freshName s m = .ok (.string (m.heap.newString s.name).1)
      ((newString s.name).after m) := rfl
  unfold transform
  rw [bind_assoc, bind_of_ok hfresh, bind_assoc]
  cases r with
  | ok u =>
    have hanswer : (settle (.ok u) >>= newString) m' =
        .ok (.string (m'.heap.newString u).1) ((newString u).after m') := rfl
    rw [bind_of_ok (h.trans hanswer)]
    rfl
  | error e =>
    have hanswer : (settle (.error e) >>= newString) m' = .error e m' := rfl
    rw [bind_of_error (h.trans hanswer)]
    rfl

/-- A symbol answers what a string answers, interned, and fails like it. The symbols stay as they
are, and so do the strings that are kept for them. -/
structure Derives (m : Machine) (derived answered : Eval Value) : Prop where
  interned : ∀ v m', answered m = .ok v m' → ∃ u x m'', v = .string u ∧
    derived m = .ok (.symbol x) m'' ∧
    x = (m'.symbols.intern u.text).1 ∧ m''.symbols.lookup? u.text = some x
  failed : ∀ e m', answered m = .error e m' → ∃ m'', derived m = .error e m''
  symbols : m.symbols.Extends (derived.after m).symbols
  names : (derived.after m).heap.strings.names = m.heap.strings.names

section Derivation

variable {k : SymbolMethod × String × StringMethod} (hk : k ∈ SymbolMethod.derivations)
  (hd : m.Defines Builtin.definitions)

include hk hd

theorem reply_derive_eq
    (hfound : lastDefined Builtin.definitions "String" name = some (.builtin (.string k.2.2))) :
    Machine.reply host n (.string t) name args m =
      (k.2.2.derive t.text args >>= newString) m.countHit.countHit := by
  rw [hd.reply_string_eq hfound, ← StringMethod.run_derive hk (sendWithin host n)]
  rfl

variable (ht : t.text = s.name)
  (hsymbol : lastDefined Builtin.definitions "Symbol" name = some (.builtin (.symbol k.1)))
  (hstring : lastDefined Builtin.definitions "String" name = some (.builtin (.string k.2.2)))
  (hsent : lastDefined Builtin.definitions "String" k.2.1 = some (.builtin (.string k.2.2)))

include ht hsymbol hstring hsent

/-- Both come to one derivation of the name: the string at once, the symbol through a string that it
makes. -/
theorem exists_replies (n n' : ℕ) :
    ∃ r, Machine.reply host n' (.string t) name args m =
      (settle r >>= newString) m.countHit.countHit ∧
      Machine.reply host (n + 1) (.symbol s) name args m =
        internDerived r ((newString s.name).after m.countHit.countHit).countHit.countHit := by
  set m₁ := m.countHit.countHit
  set m₂ := (newString s.name).after m₁
  have hext : m.Extends m₂ := Frame.trans m.extends_countHit_countHit (Frame.heap m₁ _)
  obtain ⟨r, hr, hr'⟩ := k.2.2.looks_derive s.name args m₁ m₂.countHit.countHit ⟨rfl, rfl, rfl, rfl⟩
  refine ⟨r, ?_, ?_⟩
  · rw [reply_derive_eq hk hd hstring, ht]
    exact bind_congr_at hr
  -- the symbol sends to a string of its name, so a method is found once more
  · have hnested :
        (sendWithin host (n + 1)).byName (.string (m₁.heap.newString s.name).1) k.2.1 args m₂ =
        (settle r >>= newString) m₂.countHit.countHit :=
      (reply_derive_eq hk (hd.extends hext) hsent).trans (bind_congr_at hr')
    rw [hd.reply_symbol_eq hsymbol, ← SymbolMethod.transform_eq hnested,
      ← SymbolMethod.run_derive hk]
    rfl

theorem derives_reply (n n' : ℕ) :
    Derives m (Machine.reply host (n + 1) (.symbol s) name args)
      (Machine.reply host n' (.string t) name args) := by
  obtain ⟨r, hanswer, hderive⟩ := exists_replies hk hd ht hsymbol hstring hsent n n'
  set m₂ := (newString s.name).after m.countHit.countHit
  have hext : m.Extends m₂.countHit.countHit :=
    Frame.trans (Frame.trans m.extends_countHit_countHit
      (Frame.heap _ _)) m₂.extends_countHit_countHit
  cases r with
  | ok u =>
    refine ⟨fun v m' h => ?_, fun e m' h => ?_, ?_, ?_⟩
    · obtain ⟨rfl, rfl⟩ := EStateM.Result.ok.inj (hanswer.symm.trans h)
      refine ⟨_, _, _, rfl, hderive, ?_, SymbolTable.lookup?_intern _ u⟩
      exact (m₂.countHit.intern_countHit u).trans (m₂.intern_countHit u)
    · exact nomatch hanswer.symm.trans h
    · rw [after_of_ok hderive]
      exact hext.symbols.trans (SymbolTable.extends_intern _ u)
    · rw [after_of_ok hderive]
      rfl
  | error e =>
    refine ⟨fun v m' h => ?_, fun e' m' h => ?_, ?_, ?_⟩
    · exact nomatch hanswer.symm.trans h
    · obtain ⟨rfl, rfl⟩ := EStateM.Result.error.inj (hanswer.symm.trans h)
      exact ⟨_, hderive⟩
    · rw [after_of_error hderive]
      exact hext.symbols
    · rw [after_of_error hderive]
      rfl

end Derivation

/-- The symbol answers like the string: the same for parts and searches, with the same register, and
for derived names the symbols of what the string answers. -/
structure AnswersLike (host : Host) (s : Symbol) (t : Str) (m : Machine) : Prop where
  same : ∀ name ∈ ["length", "size", "[]", "slice", "=~", "start_with?", "end_with?"], ∀ args n,
    outcome (Machine.reply host n (.symbol s) name args m) =
      outcome (Machine.reply host n (.string t) name args m)
  derived : ∀ name ∈ ["succ", "next", "upcase", "downcase", "swapcase", "capitalize"], ∀ args n n',
    Derives m (Machine.reply host (n + 1) (.symbol s) name args)
      (Machine.reply host n' (.string t) name args)

theorem answersLike (hd : m.Defines Builtin.definitions) (hs : m.heap.strings.Reads s)
    (ht : t.text = s.name) : AnswersLike host s t m := by
  constructor
  · intro name hname args n
    obtain ⟨k, hk, hsymbol, hstring⟩ := exists_likeness name hname
    rw [hd.reply_symbol_eq hsymbol, hd.reply_string_eq hstring]
    exact outcome_run_eq (hd.extends m.extends_countHit_countHit) hs ht n args hk
  · intro name hname args n n'
    obtain ⟨k, hk, hsymbol, hstring, hsent⟩ := exists_derivation name hname
    exact derives_reply hk hd ht hsymbol hstring hsent n n'

/-- With the built-in methods only, a symbol gives a new string with its name, and answers like it.
The string kept for the symbol reads like it from the start, and after every send. -/
theorem symbol_answers_like_string (hd : m.Defines Builtin.definitions)
    (hs : m.heap.strings.Reads s) (host : Host) :
    ∃ t m', (∀ n, Machine.reply host n (.symbol s) "to_s" .empty m = .ok (.string t) m') ∧
      t.text = s.name ∧ t.id = m.heap.strings.next ∧ AnswersLike host s t m' := by
  have hfound : lastDefined Builtin.definitions "Symbol" "to_s" =
      some (.builtin (.symbol .toS)) := by
    decide
  have hext : m.Extends ((newString s.name).after m.countHit.countHit) :=
    Frame.trans m.extends_countHit_countHit (Frame.heap _ _)
  refine ⟨(m.heap.newString s.name).1, (newString s.name).after m.countHit.countHit, fun n => ?_,
    rfl, rfl, ?_⟩
  · rw [hd.reply_symbol_eq hfound]
    rfl
  · exact answersLike (hd.extends hext) hs rfl

/-- A symbol that has been asked for its own string. -/
theorem symbol_answers_like_string_named :
    ∃ m₀, Machine.ofConfig .standard = .ok m₀ ∧
      let s := (m₀.symbols.intern "hello").1
      let m₁ := (intern "hello").after m₀
      let m := (sendWithin .idle 1 (.symbol s) (m₁.symbols.intern "name").1 .empty).after m₁
      m.Defines Builtin.definitions ∧ m.heap.strings.Reads s ∧ ∃ t m',
        (∀ n, Machine.reply .idle n (.symbol s) "to_s" .empty m = .ok (.string t) m') ∧
          t.text = "hello" ∧ t.id = m.heap.strings.next ∧ AnswersLike .idle s t m' := by
  obtain ⟨m₀, hm₀⟩ : ∃ m₀, Machine.ofConfig .standard = .ok m₀ := ⟨_, rfl⟩
  have hnamed₀ : m₀.Named fun _ => "" := Machine.ofConfig_eq hm₀ ▸ Machine.named_build .standard
  obtain ⟨hname, hmem⟩ := hnamed₀.defines.symbol_of_intern "hello"
  refine ⟨m₀, hm₀, ?_⟩
  intro s m₁ m
  have hnamed₁ : m₁.Named fun _ => "" := hnamed₀.intern "hello"
  have hreal₁ : m₁.Real (fun _ => "") s := .inl hmem
  obtain ⟨hnamed, hext⟩ : m.Named (fun _ => "") ∧ m₁.Extends m := by
    refine hnamed₁.send Host.keepsNames_idle 1 _ fun x hx => ?_
    obtain rfl : x = s := by simpa [Args.empty] using hx
    exact hreal₁
  have hreads := hnamed.reads (hreal₁.extends hext)
  obtain ⟨t, m', hreply, htext, hid, hlike⟩ :=
    symbol_answers_like_string hnamed.defines hreads .idle
  exact ⟨hnamed.defines, hreads, t, m', hreply, htext.trans hname, hid, hlike⟩

end LateBinding
