import LateBinding.Proofs.Machine.Dispatch

/-! # Messages from inside methods

Methods send messages to convert and to compare what they are given, and symbols send some to
strings. With the built-in methods only, these find methods that send nothing on and take the usual
steps only.
-/

namespace LateBinding

open Eval

variable {m : Machine} {host : Host} {send send' : Sender} {n : ℕ} {defs : List Definition}
  {receiver : Value} {name : String} {args : Args} {s : Symbol} {C : Contract} [C.Lawful]

theorem Eval.bind_congr_at {α β : Type} {x y : Eval α} {f : α → Eval β} {m' : Machine}
    (h : x m = y m') : (x >>= f) m = (y >>= f) m' := by
  change EStateM.bind x f m = EStateM.bind y f m'
  unfold EStateM.bind
  rw [h]

namespace Builtin

/-- The methods that are found for messages from inside methods. -/
def isLeaf : Builtin → Bool
  | .integer _ | .float _ | .array .toAry => true
  | .object .equal | .symbol .equal | .array .equal | .hash .equal => true
  | .string m => m ∈ [.toS, .equal, .succ, .upcase, .downcase, .swapcase, .capitalize]
  | _ => false

theorem run_of_isLeaf {b : Builtin} (hb : b.isLeaf = true) (send send' : Sender) (receiver : Value)
    (args : Args) : b.run host send receiver args = b.run host send' receiver args := by
  cases b with
  | integer _ | float _ => rfl
  | object k | string k | symbol k | array k | hash k | proc k | matched k | system k =>
    cases k <;> first | exact absurd hb (by decide) | rfl

theorem usual_of_isLeaf {b : Builtin} (hb : b.isLeaf = true) :
    b.isSearch = false ∧ b.isNaming = false ∧ b.isMeasuring = false := by
  cases b with
  | string k | symbol k | array k | matched k =>
    revert hb
    cases k <;> decide
  | _ => exact ⟨rfl, rfl, rfl⟩

theorem meets_of_isLeaf {b : Builtin} (hb : b.isLeaf = true) (hreceiver : C.value receiver)
    (hargs : ∀ v ∈ args.items, C.value v)
    (hends : b.isLooking = true → C.Ends (receiver :: args.items)) :
    (b.run host send receiver args).Meets C C.value := by
  rw [run_of_isLeaf hb send fun _ _ _ => pure .nil]
  have hnil : C.value .nil := Contract.Lawful.made trivial
  have hsends : C.SendsAll fun _ _ _ => pure .nil := fun _ _ _ _ => .pure hnil
  obtain ⟨hsearch, hnaming, hmeasuring⟩ := usual_of_isLeaf hb
  refine Permits.meets_run hsends.sends ⟨fun h => ?_, fun h => ?_, ?_, ?_, ?_, fun h => ?_,
    hends⟩ hreceiver hargs
  · rw [hsearch] at h
    cases h
  · rw [hnaming] at h
    cases h
  · rintro rfl
    cases hb
  · rintro rfl
    cases hb
  · rintro rfl
    cases hb
  · rw [hmeasuring] at h
    cases h

theorem mem_all_of_definition {cls name : String} {method : Method}
    (h : ((cls, name), method) ∈ definitions) :
    ∃ b, method = .builtin b ∧ (cls, name, b) ∈ all := by
  obtain ⟨⟨_, _, b⟩, he, h⟩ := List.mem_map.mp h
  cases h
  exact ⟨b, rfl, he⟩

theorem isLeaf_of_conversion : ∀ e ∈ all, e.2.1 ∈ conversions → e.2.2.isLeaf = true := by decide

/-- Of the messages for conversions and for equality, only the one for equality makes a method go
into values. -/
theorem name_of_isLooking :
    ∀ e ∈ all, e.2.1 ∈ conversions → e.2.2.isLooking = true → e.2.1 = "==" := by decide

theorem isLeaf_of_derivation : ∀ name ∈ derivations, ∃ b,
    lastDefined definitions "String" name = some (.builtin b) ∧ b.isLeaf = true := by
  simp only [derivations, List.mem_cons, List.not_mem_nil, or_false]
  rintro name (rfl | rfl | rfl | rfl | rfl)
  · exact ⟨.string .succ, by decide, by decide⟩
  · exact ⟨.string .upcase, by decide, by decide⟩
  · exact ⟨.string .downcase, by decide, by decide⟩
  · exact ⟨.string .swapcase, by decide, by decide⟩
  · exact ⟨.string .capitalize, by decide, by decide⟩

theorem writtenField?_of_conversion :
    ∀ name ∈ conversions, (writtenField? name).isSome = true → name = "==" := by decide

end Builtin

namespace Machine

/-- A symbol of the machine, or of another table. -/
def Genuine (m : Machine) (s : Symbol) : Prop :=
  s ∈ m.symbols.symbols ∨ s.id.table ≠ m.symbols.tag

theorem Defines.mem_of_get? (hd : m.Defines defs) (hs : m.Genuine s) {c : Symbol} {method : Method}
    (h : m.methods.get? c s = some method) : ∃ cls, ((cls, s.name), method) ∈ defs := by
  obtain ⟨e, he, hit, rfl⟩ := Entries.exists_of_get? h
  obtain ⟨-, hsame⟩ := (Bool.and_eq_true _ _).mp hit
  have hkey := (hd.keys _ (List.mem_map_of_mem he)).2
  have hname : e.1.2.name = s.name := by
    rcases hs with hs | hs
    · exact (hd.canonical.same_iff hkey hs).mp hsame
    · have hid : e.1.2.id = s.id := beq_iff_eq.mp hsame
      exact absurd (hid ▸ hd.canonical.table_of_mem hkey) hs
  refine ⟨e.1.1.name, Entries.mem_of_mem_tabulate ?_⟩
  rw [← hd.texts, ← hname]
  exact List.mem_map_of_mem he

theorem Defines.exists_builtin (hd : m.Defines Builtin.definitions) {c : Symbol} {method : Method}
    (h : m.methods.get? c s = some method) : ∃ b, method = .builtin b := by
  obtain ⟨e, he, -, rfl⟩ := Entries.exists_of_get? h
  have hread : readEntry e ∈ Builtin.definitions := by
    refine Entries.mem_of_mem_tabulate ?_
    rw [← hd.texts]
    exact List.mem_map_of_mem he
  obtain ⟨b, hb, -⟩ := Builtin.mem_all_of_definition hread
  exact ⟨b, hb⟩

theorem Defines.exists_findMethod (hd : m.Defines defs) (hs : m.Genuine s) (receiver : Value) :
    ∃ found, findMethod receiver s m = .ok found ((classOf receiver).after m) ∧
      (∀ method ∈ found, ∃ cls, ((cls, s.name), method) ∈ defs) ∧
      (found = none → s ∈ m.symbols.symbols →
        lastDefined defs Builtin.objectClass s.name = none) := by
  have hext : m.Extends ((classOf receiver).after m) := keeps_classOf receiver m
  have hd' := hd.extends hext
  obtain ⟨c, hc⟩ : ∃ c, classOf receiver m = .ok c ((classOf receiver).after m) := by
    cases receiver <;> exact ⟨_, rfl⟩
  set m' := (classOf receiver).after m
  have hs' : m'.Genuine s := by
    refine hs.imp hext.symbols.mem_symbols fun h => ?_
    rwa [hext.symbols.tag]
  refine ⟨(m'.methods.get? c s).or (m'.methods.get? m'.objectClass s), ?_, fun method hfound => ?_,
    fun hnone hmem => ?_⟩
  · unfold findMethod
    rw [bind_of_ok hc]
    rfl
  · rcases Option.or_eq_some_iff.mp hfound with h | ⟨-, h⟩
    · exact hd'.mem_of_get? hs' h
    · exact hd'.mem_of_get? hs' h
  · have hobject := hd'.canonical.name_of_lookup? hd'.object
    have hobjmem := hd'.canonical.mem_symbols_iff.mpr (hobject.symm ▸ hd'.object)
    rw [← hobject, ← hd'.get? hobjmem (hext.symbols.mem_symbols hmem)]
    exact (Option.or_eq_none_iff.mp hnone).2

def answer (host : Host) (send : Sender) (receiver : Value) (s : Symbol) (args : Args) :
    Option Method → Eval Value
  | some method => method.run host send receiver args
  | none => withoutMethod receiver s args

theorem dispatch_of_findMethod {found : Option Method} {m' : Machine}
    (h : findMethod receiver s m = .ok found m') :
    dispatch host send receiver s args m = answer host send receiver s args found m' := by
  unfold dispatch
  rw [bind_of_ok h]
  cases found with
  | some method => rfl
  | none => cases receiver <;> rfl

theorem meets_withoutMethod (receiver : Value) (s : Symbol) (hargs : ∀ v ∈ args.items, C.value v)
    (hwrite : (writtenField? s.name).isSome = true → C.MayWrite) :
    (withoutMethod receiver s args).Meets C C.value := by
  cases receiver with
  | object o => exact meets_accessField o s hargs hwrite
  | _ => exact meets_fail _

section Conversion

variable (hd : m.Defines Builtin.definitions) (hs : s ∈ m.symbols.symbols)
  (hname : s.name ∈ Builtin.conversions)

include hd hs hname

theorem Defines.dispatch_conversion_eq (send send' : Sender) :
    dispatch host send receiver s args m = dispatch host send' receiver s args m := by
  obtain ⟨found, hfind, hdefined, -⟩ := hd.exists_findMethod (.inl hs) receiver
  rw [dispatch_of_findMethod hfind, dispatch_of_findMethod hfind]
  cases found with
  | none => rfl
  | some method =>
    obtain ⟨cls, hmem⟩ := hdefined method rfl
    obtain ⟨b, rfl, hall⟩ := Builtin.mem_all_of_definition hmem
    have hleaf := Builtin.isLeaf_of_conversion _ hall hname
    exact congrFun (Builtin.run_of_isLeaf hleaf send send' receiver args) _

theorem Defines.allows_conversion (hm : C.machine m) (hreceiver : C.value receiver)
    (hargs : ∀ v ∈ args.items, C.value v)
    (hends : s.name = "==" → C.Ends (receiver :: args.items)) :
    C.Allows C.value m (dispatch host send receiver s args m) := by
  obtain ⟨found, hfind, hdefined, hnone⟩ := hd.exists_findMethod (.inl hs) receiver
  rw [dispatch_of_findMethod hfind]
  have hclass := (meets_classOf receiver).step_after hm
  have hanswer : (answer host send receiver s args found).Meets C C.value := by
    cases found with
    | none =>
      refine meets_withoutMethod receiver s hargs fun hfield => ?_
      have hequal := Builtin.writtenField?_of_conversion _ hname hfield
      have hmissing := hnone rfl hs
      rw [hequal] at hmissing
      exact absurd hmissing (by decide)
    | some method =>
      obtain ⟨cls, hmem⟩ := hdefined method rfl
      obtain ⟨b, rfl, hall⟩ := Builtin.mem_all_of_definition hmem
      exact Builtin.meets_of_isLeaf (Builtin.isLeaf_of_conversion _ hall hname) hreceiver hargs
        fun hlooking =>
        hends (Builtin.name_of_isLooking _ hall hname hlooking)
  exact allows_of_step hclass (hanswer.allows _ (Contract.Lawful.keep hm hclass))

end Conversion

/-- How deep the stack is plays no part in a conversion, as long as there is room for one send. -/
theorem Defines.toAry_eq (hd : m.Defines Builtin.definitions) (n n' : ℕ) (v : Value)
    (strict : Bool) :
    toAry (sendWithin host (n + 1)) v strict m = toAry (sendWithin host (n' + 1)) v strict m := by
  unfold toAry
  split
  · rfl
  · have hkeeps : (respondsToName v "to_ary").Keeps Extends := keeps_iff_meets.mpr
      ((meets_respondsToName v "to_ary").imp fun _ _ => trivial)
    cases hanswers : respondsToName v "to_ary" m with
    | error e m₁ => rw [bind_of_error hanswers, bind_of_error hanswers]
    | ok answers m₁ =>
      rw [bind_of_ok hanswers, bind_of_ok hanswers]
      cases answers with
      | false => rfl
      | true =>
        have hd₁ : m₁.Defines Builtin.definitions := by
          have hext := hkeeps m
          rw [after_of_ok hanswers] at hext
          exact hd.extends hext
        obtain ⟨hsname, hsmem⟩ := hd₁.symbol_of_intern "to_ary"
        have hext : m₁.Extends ((intern "to_ary").after m₁) := keeps_intern _ m₁
        have hsend : (sendWithin host (n + 1)).byName v "to_ary" .empty m₁ =
            (sendWithin host (n' + 1)).byName v "to_ary" .empty m₁ :=
          (hd₁.extends hext).dispatch_conversion_eq hsmem (hsname.symm ▸ by decide) _ _
        exact bind_congr_at hsend

theorem Defines.parameters_eq (hd : m.Defines Builtin.definitions) (n n' : ℕ)
    (isLambda : Bool) (b : Block) (args : Args) :
    parameters (sendWithin host (n + 1)) isLambda b args m =
      parameters (sendWithin host (n' + 1)) isLambda b args m := by
  obtain ⟨min, max, spread, code⟩ := b
  obtain ⟨items, keywords⟩ := args
  unfold parameters
  split
  · rfl
  · unfold bindBlock
    cases spread with
    | false => rfl
    | true =>
      rcases items with _ | ⟨v, _ | ⟨w, rest⟩⟩
      · rfl
      · exact bind_congr_at (hd.toAry_eq n n' v true)
      · rfl

end Machine

/-- With the built-in methods only, what they send on their own meets every contract, on a stack
with room for one send. -/
theorem Contract.sends_sendWithin (hdefines : ∀ m, C.machine m → m.Defines Builtin.definitions)
    {n : ℕ} (hn : C.faults .overflow ∨ 0 < n) : C.Sends (sendWithin host n) := by
  cases n with
  | zero =>
    have hfaults := hn.resolve_right (Nat.lt_irrefl 0)
    exact SendsAll.sends fun _ _ _ _ => meets_fault hfaults
  | succ n =>
    refine ⟨fun {v} hv name hname args hargs hends => ⟨fun m hm => ?_⟩,
      fun str name hname args hargs hends => ⟨fun m hm => ?_⟩⟩
    · obtain ⟨hsname, hsmem⟩ := (hdefines m hm).symbol_of_intern name
      have hstep : C.step m ((intern name).after m) := Lawful.symbols name hm
      have hm' := Lawful.keep hm hstep
      refine allows_of_step hstep ((hdefines _ hm').allows_conversion hsmem
        (hsname.symm ▸ hname) hm' hv hargs ?_)
      exact fun hequal => hends (hsname.symm.trans hequal)
    · obtain ⟨b, hb, hleaf⟩ := Builtin.isLeaf_of_derivation name hname
      have hstep : C.step m ((intern name).after m) := Lawful.symbols name hm
      have hm' := Lawful.keep hm hstep
      have hclass := (meets_classOf (.string str)).step_after hm'
      have hreply : Machine.reply host n (.string str) name args m = _ :=
        (hdefines m hm).reply_eq trivial
      rw [show (Value.string str).className = "String" from rfl, hb] at hreply
      change C.Allows C.value m (Machine.reply host n (.string str) name args m)
      rw [hreply]
      have hanswer : (b.run host (sendWithin host n) (.string str) args).Meets C C.value :=
        Builtin.meets_of_isLeaf hleaf (Lawful.made trivial) hargs fun _ => hends.cons_flat rfl
      exact allows_of_step (Lawful.trans hstep hclass) (hanswer.allows _ (Lawful.keep hm' hclass))

end LateBinding
