import LateBinding.Proofs.Machine.Definitions
import LateBinding.Proofs.Renaming.Container
import LateBinding.Proofs.Renaming.Text
import LateBinding.Send

/-! # Sends up to a renaming of symbols

Methods are found under symbols and run on the values that a message brings along. When native code
agrees, so do all sends, however deep they are nested.
-/

namespace LateBinding

open Eval Renaming

/-- Native code comes to the same on both sides as long as all that it sends does. Code that looks
neither at what a symbol table counts nor at which names it knows cannot do otherwise. -/
structure Host.Uniform (host : Host) : Prop where
  method : ∀ (name : String) {send : Sender}, send.Uniform →
    ∀ {ρ : Renaming} {v v' : Value} {args args' : Args}, ρ.Values v v' → ρ.Arguments args args' →
      ρ.Agree Renaming.Values (host.method name send v args) (host.method name send v' args')
  block : ∀ (code : String) {send : Sender}, send.Uniform →
    ∀ {ρ : Renaming} {items items' : List Value}, ρ.Items items items' →
      ρ.Agree Renaming.Values (host.block code send items) (host.block code send items')

variable {ρ : Renaming} {send : Sender} {host : Host} {self self' : Value} {args args' : Args}

namespace Renaming

theorem agree_callProc (hh : host.Uniform) (hs : send.Uniform) {p p' : Proc}
    (hp : ρ.Values (.proc p) (.proc p')) (hargs : ρ.Arguments args args') :
    ρ.Agree Renaming.Values (callProc host send p args) (callProc host send p' args') := by
  cases hp with
  | proc id bodies isLambda =>
    cases bodies with
    | send hname =>
      refine (agreeStill_check hargs _).bind_eq fun _ =>
        (agreeStill_arg hargs 0).bind fun v v' hv => ?_
      exact (agreeStill_shift hargs).bind fun rest rest' hrest => hs hv hname hrest
    | block b =>
      refine (ProcMethod.agree_parameters hs isLambda b hargs).bind
        fun σ items items' _ hitems => ?_
      exact hh.block b.code hs hitems

theorem agree_builtin (hh : host.Uniform) (hs : send.Uniform) (b : Builtin)
    (hself : ρ.Values self self') (hargs : ρ.Arguments args args') :
    ρ.Agree Renaming.Values (b.run host send self args) (b.run host send self' args') := by
  cases b with
  | object m => exact m.agree_run hs hself hargs
  | integer m => exact m.agree_run hself hargs
  | float m => exact m.agree_run hself hargs
  | string m => exact m.agree_run hs hself hargs
  | symbol m => exact m.agree_run hs hself hargs
  | array m => exact m.agree_run hs hself hargs
  | hash m => exact m.agree_run hself hargs
  | proc m => exact m.agree_run hself hargs fun p p' hp => agree_callProc hh hs hp hargs
  | matched m => exact m.agree_run hs hself hargs
  | system m => exact m.agree_run hs host.system hargs

theorem agree_method (hh : host.Uniform) (hs : send.Uniform) (m : Method)
    (hself : ρ.Values self self') (hargs : ρ.Arguments args args') :
    ρ.Agree Renaming.Values (m.run host send self args) (m.run host send self' args') := by
  cases m with
  | builtin b => exact agree_builtin hh hs b hself hargs
  | native name => exact hh.method name hs hself hargs

variable {s s' : Symbol}

theorem agree_missing (hself : ρ.Values self self') (hname : ρ.Pairs s s') :
    ρ.Agree Renaming.Values (missing self s) (missing self' s') :=
  agree_fail (by rw [hname.name_eq, hself.className_eq])

theorem agree_accessField (ref : ℕ) {cls cls' : Symbol} (hcls : ρ.Pairs cls cls')
    (hname : ρ.Pairs s s') (hargs : ρ.Arguments args args') :
    ρ.Agree Renaming.Values (accessField ⟨ref, cls⟩ s args) (accessField ⟨ref, cls'⟩ s' args') := by
  unfold accessField
  refine agreeStill_heap.bind fun h h' hh => ?_
  have hfield : Option.Rel ρ.Values (h.field? ⟨ref, cls⟩ s) (h'.field? ⟨ref, cls'⟩ s') :=
    hh.field? ref hname
  generalize h.field? ⟨ref, cls⟩ s = found at hfield ⊢
  generalize h'.field? ⟨ref, cls'⟩ s' = found' at hfield ⊢
  cases hfield with
  | some hv => exact (agreeStill_check hargs _).bind_eq fun _ => agree_pure hv
  | none =>
    dsimp only
    rw [hname.name_eq]
    split
    · refine (agreeStill_check hargs _).bind_eq fun _ =>
        (agreeStill_arg hargs 0).bind fun v v' hv => ?_
      refine (agree_intern _).bind fun σ t t' hle ht => ?_
      refine (agreeStill_setHeap fun h h' hh => ?_).bind_eq fun _ => agree_pure (hv.mono hle)
      exact hh.setField ref ht (hv.mono hle)
    · exact agree_missing (.object ref hcls) hname

theorem agree_dispatch (hh : host.Uniform) (hs : send.Uniform) (hself : ρ.Values self self')
    (hname : ρ.Pairs s s') (hargs : ρ.Arguments args args') :
    ρ.Agree Renaming.Values (dispatch host send self s args)
      (dispatch host send self' s' args') := by
  refine (agree_findMethod hself hname).bind_eq fun σ found hle => ?_
  replace hself := hself.mono hle
  replace hname := hname.mono hle
  replace hargs := hargs.mono hle
  cases found with
  | some m => exact agree_method hh hs m hself hargs
  | none =>
    have hmissing := agree_missing hself hname
    cases hself with
    | object ref hcls => exact agree_accessField ref hcls hname hargs
    | _ => exact hmissing

end Renaming

theorem Host.Uniform.sendWithin (hh : host.Uniform) (n : ℕ) : (Eval.sendWithin host n).Uniform := by
  -- By induction on the stack.
  induction n with
  | zero => exact fun _ _ _ => agree_throw .overflow
  | succ n ih => exact fun hself hname hargs => agree_dispatch hh ih hself hname hargs

end LateBinding
