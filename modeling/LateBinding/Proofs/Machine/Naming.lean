import LateBinding.Proofs.Machine.Effect

/-! # The strings of symbols

A symbol keeps one string, made from its name when it is first asked for. The machine finds it by
the identity of the symbol, and it reads like the symbol as long as the program has no symbols but
those of its tables.
-/

namespace LateBinding

open Eval

variable {others : SymbolId → String} {base m m' : Machine} {host : Host} {n : ℕ} {receiver : Value}
  {args : Args} {s x : Symbol}

def StringStore.Reads (st : StringStore) (s : Symbol) : Prop :=
  ∀ str, st.name? s = some str → str.text = s.name

theorem StringStore.Reads.text_nameOf {st : StringStore} (hs : st.Reads s) :
    (st.nameOf s).1.text = s.name := by
  unfold nameOf
  cases hname : st.name? s with
  | some str => exact hs str hname
  | none => rfl

theorem StringStore.mem_names_nameOf {st : StringStore} {e : SymbolId × Str}
    (he : e ∈ (st.nameOf s).2.names) : e ∈ st.names ∨ e.1 = s.id ∧ e.2.text = s.name := by
  unfold nameOf at he
  cases hname : st.name? s with
  | some str =>
    rw [hname] at he
    exact .inl he
  | none =>
    rw [hname] at he
    rcases List.mem_cons.mp he with rfl | he
    · exact .inr ⟨rfl, rfl⟩
    · exact .inl he

namespace Machine

/-- A symbol of the machine, or of another table, where the symbols have these names. -/
def Real (others : SymbolId → String) (m : Machine) (x : Symbol) : Prop :=
  x ∈ m.symbols.symbols ∨ x.id.table ≠ m.symbols.tag ∧ x.name = others x.id

/-- The built-in methods are the only ones, and strings are kept for real symbols, and read like
them. -/
structure Named (others : SymbolId → String) (m : Machine) : Prop where
  defines : m.Defines Builtin.definitions
  names : ∀ e ∈ m.heap.strings.names, ∃ x, m.Real others x ∧ x.id = e.1 ∧ e.2.text = x.name

theorem Real.extends (hx : m.Real others x) (h : m.Extends m') : m'.Real others x := by
  unfold Real
  rw [h.symbols.tag]
  exact hx.imp_left h.symbols.mem_symbols

theorem Named.name_eq (hm : m.Named others) (hs : m.Real others s) (hx : m.Real others x)
    (hid : x.id = s.id) : x.name = s.name := by
  have hcan := hm.defines.canonical
  rcases hs with hs | ⟨hs, hsname⟩
  · rcases hx with hx | ⟨hx, -⟩
    · rw [hcan.eq_of_same hx hs (by simp [Symbol.same, hid])]
    · exact absurd (hid ▸ hcan.table_of_mem hs) hx
  · rcases hx with hx | ⟨-, hxname⟩
    · exact absurd (hid ▸ hcan.table_of_mem hx) hs
    · rw [hxname, hsname, hid]

theorem Named.reads (hm : m.Named others) (hs : m.Real others s) : m.heap.strings.Reads s := by
  intro str hstr
  obtain ⟨before, after, hnames, -⟩ := List.lookup_eq_some_iff.mp hstr
  have hmem : (s.id, str) ∈ m.heap.strings.names := by
    rw [hnames]
    exact List.mem_append_right _ List.mem_cons_self
  obtain ⟨x, hx, hid, htext⟩ := hm.names _ hmem
  rw [htext]
  exact hm.name_eq hs hx hid

theorem Named.extends (hm : m.Named others) (h : m.Extends m')
    (hnames : m'.heap.strings.names = m.heap.strings.names) : m'.Named others := by
  refine ⟨hm.defines.extends h, fun e he => ?_⟩
  obtain ⟨x, hx, hid, htext⟩ := hm.names e (hnames ▸ he)
  exact ⟨x, hx.extends h, hid, htext⟩

theorem Named.intern (hm : m.Named others) (name : String) : ((intern name).after m).Named others :=
  hm.extends (keeps_intern name m) rfl

theorem Named.nameString (hm : m.Named others) (hs : m.Real others s) :
    Named others { m with heap := (m.heap.nameString s).2 } := by
  have hext : m.Extends { m with heap := (m.heap.nameString s).2 } := Frame.heap m _
  refine ⟨hm.defines.extends hext, fun e he => ?_⟩
  rcases StringStore.mem_names_nameOf he with he | ⟨hid, htext⟩
  · obtain ⟨x, hx, hid, htext⟩ := hm.names e he
    exact ⟨x, hx.extends hext, hid, htext⟩
  · exact ⟨s, hs.extends hext, hid.symm, htext⟩

theorem named_build (c : Config) : (build c).Named others := by
  refine ⟨defines_build c, fun e he => ?_⟩
  rw [(heap_build c).1] at he
  cases he

end Machine

namespace Contract

def named (others : SymbolId → String) (base : Machine) : Contract where
  machine m := m.Named others ∧ base.Extends m
  value _ := True
  step m m' := (m.Named others ∧ base.Extends m) → m'.Named others ∧ base.Extends m'
  faults _ := True

theorem step_named (h : m.Extends m') (hnames : m'.heap.strings.names = m.heap.strings.names) :
    (named others base).step m m' := by
  rintro ⟨hm, hbase⟩
  exact ⟨hm.extends h hnames, Frame.trans hbase h⟩

instance : (named others base).Lawful where
  refl _ := id
  trans h h' := h' ∘ h
  keep hm h := h hm
  contents _ := ⟨fun _ _ _ _ => trivial, fun _ _ _ _ => ⟨trivial, trivial⟩, fun _ _ _ _ => trivial⟩
  made _ := trivial
  sound := .inl trivial
  symbols name _ := step_named (Frame.symbols _ name) rfl
  heap _ _ hnames _ := step_named (Frame.heap _ _) hnames
  users i _ := step_named (Frame.users _ i) rfl
  groups i _ := step_named (Frame.groups _ i) rfl

theorem maySet_named : (named others base).MaySet :=
  fun m v _ _ => step_named (Frame.register m v) rfl

theorem mayWrite_named : (named others base).MayWrite := fun m h _ hstrings _ =>
  step_named (Frame.heap m h) (congrArg StringStore.names hstrings)

theorem mayName_named (hs : base.Real others s) : (named others base).MayName s := by
  rintro m - ⟨hm, hbase⟩
  exact ⟨hm.nameString (hs.extends hbase), Frame.trans hbase (Frame.heap m _)⟩

theorem sends_named (n : ℕ) : (named others base).Sends (sendWithin host n) :=
  sends_sendWithin (C := .named others base) (fun _ hm => hm.1.defines) (.inl trivial)

end Contract

def Host.KeepsNames (host : Host) (others : SymbolId → String) : Prop :=
  ∀ base code n items, (host.block code (sendWithin host n) items).Meets (.named others base)
    fun _ => True

theorem Host.keepsNames_idle : Host.idle.KeepsNames others := fun _ _ _ _ => .pure trivial

section Send

variable (hh : host.KeepsNames others)

include hh

theorem meets_callProc_named {p : Proc} {args : Args}
    (hargs : ∀ x, .symbol x ∈ args.items → base.Real others x)
    (hsend : ∀ receiver s (args : Args), (∀ x, .symbol x ∈ receiver :: args.items →
      base.Real others x) →
      (sendWithin host n receiver s args).Meets (.named others base) fun _ => True) :
    (callProc host (sendWithin host n) p args).Meets (.named others base) fun _ => True := by
  unfold callProc
  split
  · next name _ =>
    refine (meets_check args _).bind fun _ hsize =>
      (meets_arg hsize).bind fun receiver hreceiver => ?_
    refine (meets_shift hsize).bind fun rest hrest => hsend receiver name rest fun x hx => ?_
    rcases List.mem_cons.mp hx with rfl | hx
    · exact hargs x hreceiver
    · exact hargs x (hrest.2 _ hx)
  · next b _ =>
    have hsends : (Contract.named others base).Sends (sendWithin host n) := Contract.sends_named n
    refine (ProcMethod.meets_parameters hsends (.inl trivial) fun _ _ => trivial).bind
      fun items _ => ?_
    exact hh base b.code n items

theorem meets_sendWithin_named (n : ℕ) (base : Machine) (receiver : Value) (s : Symbol)
    (args : Args) (hreal : ∀ x, .symbol x ∈ receiver :: args.items → base.Real others x) :
    (sendWithin host n receiver s args).Meets (.named others base) fun _ => True := by
  -- By induction on the stack: sends to real symbols and with real symbols keep strings for no
  -- others.
  induction n generalizing base receiver s args with
  | zero => exact meets_fault trivial
  | succ n ih =>
    refine (meets_findMethod receiver s).bind fun found hfound => ?_
    rcases found with _ | b | native
    · cases receiver with
      | object o =>
        exact meets_accessField o s (fun _ _ => trivial) fun _ => Contract.mayWrite_named
      | _ => exact meets_fail _
    · by_cases hcall : b = .proc .call ∧ ∃ p, receiver = .proc p
      · obtain ⟨rfl, p, rfl⟩ := hcall
        refine meets_callProc_named hh (fun x hx => hreal x (List.mem_cons_of_mem _ hx)) ?_
        exact fun receiver s args => ih base receiver s args
      · have hsends : (Contract.named others base).Sends (sendWithin host n) :=
          Contract.sends_named n
        refine Builtin.Permits.meets_run hsends ⟨?_, ?_, ?_, ?_, ?_, ?_, ?_⟩ trivial fun _ _ =>
          trivial
        · exact fun _ _ _ _ => Contract.maySet_named
        · rintro - x rfl
          exact Contract.mayName_named (hreal x List.mem_cons_self)
        · exact fun _ _ _ => Contract.mayWrite_named
        · exact fun _ _ _ => ⟨Contract.mayWrite_named, trivial⟩
        -- a call alone sends what the caller chose, and it was dealt with
        · exact fun hb p hp => absurd ⟨hb, p, hp⟩ hcall
        · exact fun _ => .inl trivial
        · exact fun _ => .inl trivial
    · obtain ⟨m, hm, c, s, hget⟩ := hfound _ rfl
      obtain ⟨b, hb⟩ := hm.1.defines.exists_builtin hget
      cases hb

theorem Machine.Named.send (hm : m.Named others) (n : ℕ) (s : Symbol)
    (hreal : ∀ x, .symbol x ∈ receiver :: args.items → m.Real others x) :
    ((sendWithin host n receiver s args).after m).Named others ∧
      m.Extends ((sendWithin host n receiver s args).after m) :=
  (meets_sendWithin_named hh n m receiver s args hreal).step_after ⟨hm, Frame.refl m⟩
    ⟨hm, Frame.refl m⟩

end Send

end LateBinding
