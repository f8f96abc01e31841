import LateBinding.Method.Float
import LateBinding.Method.Integer
import LateBinding.Method.Match
import LateBinding.Method.Object
import LateBinding.Method.Symbol
import LateBinding.Proofs.Renaming.Machine

/-! # Methods of scalars and texts up to a renaming of symbols

A method compares symbols with symbols that it was given or that it interns, and shows them by their
names. Called with receivers and arguments that stand for each other, it comes to the same on both
sides.
-/

namespace LateBinding

open Eval Renaming

variable {ρ : Renaming} {send : Sender} {self self' v v' : Value} {args args' : Args}

namespace ObjectMethod

theorem agree_methodName (hv : ρ.Values v v') :
    ρ.Agree Renaming.Pairs (methodName v) (methodName v') := by
  have hself := hv
  cases hv with
  | symbol hs => exact agree_pure hs
  | string s => exact agree_intern _
  | _ =>
    refine agreeStill_heap.bind fun h h' hh => ?_
    exact (agreeStill_orEndless_eq (hh.inspect?_eq hself)).bind_eq fun text => agree_fail rfl

theorem agree_run (hs : send.Uniform) (m : ObjectMethod) (hself : ρ.Values self self')
    (hargs : ρ.Arguments args args') :
    ρ.Agree Renaming.Values (m.run send self args) (m.run send self' args') := by
  unfold run
  refine (agreeStill_check hargs m.arity).bind_eq fun _ => ?_
  cases m with
  | inspect =>
    refine agreeStill_heap.bind fun h h' hh => ?_
    exact (agreeStill_orEndless_eq (hh.inspect?_eq hself)).bind_eq fun text =>
      (agreeStill_newString rfl).agree
  | toS =>
    refine agreeStill_heap.bind fun h h' hh => ?_
    exact (agreeStill_orEndless_eq (hh.display?_eq hself)).bind_eq fun text =>
      (agreeStill_newString rfl).agree
  | equal =>
    refine agreeStill_heap.bind fun h h' hh => (agreeStill_arg hargs 0).bind fun v v' hv => ?_
    exact agree_bool (hh.same_eq hself hv)
  | notEqual =>
    exact (agree_byName hs hself "==" hargs).bind fun σ a b _ hab =>
      agree_bool (congrArg _ hab.isTruthy_eq)
  | isNil => exact agree_bool hself.isNil_eq
  | respondTo =>
    refine (agreeStill_arg hargs 0).bind fun v v' hv => ?_
    refine (agree_methodName hv).bind fun σ s s' hle hs => ?_
    exact (agree_respondsTo (hself.mono hle) hs).bind_eq fun τ answers _ => agree_bool rfl

end ObjectMethod

namespace IntegerMethod

theorem agreeStill_receiver (hv : ρ.Values v v') : ρ.AgreeStill Eq (receiver v) (receiver v') := by
  have hself := hv
  cases hv with
  | integer n => exact agreeStill_pure rfl
  | _ => exact agree_wrongArgument hself _

theorem agree_bounded (n : ℤ) : ρ.Agree Renaming.Values (bounded n) (bounded n) := by
  unfold bounded
  split
  · exact agree_pure (.integer _)
  · exact agree_fail rfl

theorem operandName_eq (hv : ρ.Values v v') : operandName v = operandName v' := by
  cases hv with
  | object ref hcls => exact hcls.name_eq
  | _ => rfl

theorem agree_run (m : IntegerMethod) (hself : ρ.Values self self')
    (hargs : ρ.Arguments args args') :
    ρ.Agree Renaming.Values (m.run self args) (m.run self' args') := by
  unfold run
  refine (agreeStill_check hargs m.arity).bind_eq fun _ =>
    (agreeStill_receiver hself).bind_eq fun n => ?_
  cases m with
  | toS => exact (agreeStill_newString rfl).agree
  | toI => exact agree_pure hself
  | succ => exact agree_bounded _
  | plus | minus =>
    refine (agreeStill_arg hargs 0).bind fun v v' hv => ?_
    have hname := operandName_eq hv
    cases hv with
    | integer k => exact agree_bounded _
    | float d => exact agree_pure (.float _)
    | _ => exact agree_fail (by rw [hname])
  | equal =>
    refine (agreeStill_arg hargs 0).bind fun v v' hv => ?_
    cases hv <;> exact agree_bool rfl
  | compare =>
    refine (agreeStill_arg hargs 0).bind fun v v' hv => ?_
    cases hv with
    | integer k => exact agree_pure (values_ordering _)
    | float d =>
      refine agree_pure ?_
      cases (Double.ofInt n).order? d with
      | none => exact .nil
      | some o => exact values_ordering o
    | _ => exact agree_pure .nil

end IntegerMethod

namespace FloatMethod

theorem agreeStill_receiver (hv : ρ.Values v v') : ρ.AgreeStill Eq (receiver v) (receiver v') := by
  have hself := hv
  cases hv with
  | float d => exact agreeStill_pure rfl
  | _ => exact agree_wrongArgument hself _

theorem agree_wholeNumber (d : Double) :
    ρ.Agree Renaming.Values (wholeNumber d) (wholeNumber d) := by
  unfold wholeNumber
  split
  · split
    · exact agree_pure (.integer _)
    · exact agree_fail rfl
  · exact agree_fail rfl

theorem agree_run (m : FloatMethod) (hself : ρ.Values self self') (hargs : ρ.Arguments args args') :
    ρ.Agree Renaming.Values (m.run self args) (m.run self' args') := by
  unfold run
  refine (agreeStill_check hargs m.arity).bind_eq fun _ =>
    (agreeStill_receiver hself).bind_eq fun d => ?_
  cases m with
  | toS => exact (agreeStill_newString rfl).agree
  | toI => exact agree_wholeNumber d
  | equal =>
    refine (agreeStill_arg hargs 0).bind fun v v' hv => ?_
    cases hv <;> exact agree_bool rfl

end FloatMethod

namespace StringMethod

theorem agreeStill_receiver (hv : ρ.Values v v') : ρ.AgreeStill Eq (receiver v) (receiver v') := by
  have hself := hv
  cases hv with
  | string s => exact agreeStill_pure rfl
  | _ => exact agree_wrongArgument hself _

theorem agreeStill_lookFor (r : Regexp) (text : String) :
    ρ.AgreeStill Eq (lookFor r text) (lookFor r text) := by
  unfold lookFor
  split
  · refine agreeStill_fresh.bind_eq fun id => ?_
    exact (agreeStill_setLastMatch (.matched _)).bind_eq fun _ => agreeStill_pure rfl
  · exact (agreeStill_setLastMatch .nil).bind_eq fun _ => agreeStill_pure rfl

theorem agreeStill_namedGroup (m : Match) {name name' : String} (h : name = name') :
    ρ.AgreeStill Eq (namedGroup m name) (namedGroup m name') := by
  subst h
  unfold namedGroup
  split
  · exact agreeStill_pure rfl
  · exact agree_fail rfl

theorem agreeStill_fromEnd (i : Int64) (count : ℕ) :
    ρ.AgreeStill Eq (fromEnd i count) (fromEnd i count) := by
  unfold fromEnd
  split
  · exact agreeStill_sum _ _
  · exact agreeStill_pure rfl

theorem agreeStill_groupAt (m : Match) (i : Int64) :
    ρ.AgreeStill Eq (groupAt m i) (groupAt m i) := by
  unfold groupAt
  split
  · exact (agreeStill_sum _ _).bind_eq fun _ => agreeStill_pure rfl
  · exact agreeStill_pure rfl

theorem agree_selectGroup (hs : send.Uniform) (m : Match) {x x' : Option Value}
    (hx : Option.Rel ρ.Values x x') : ρ.AgreeEq (selectGroup send m x) (selectGroup send m x') := by
  cases hx with
  | none => exact agree_pure rfl
  | some hv =>
    have hself := hv
    cases hv with
    | string s => exact (agreeStill_namedGroup m rfl).agree
    | symbol ht => exact (agreeStill_namedGroup m ht.name_eq).agree
    | _ => exact (agree_toInt hs hself).bind_eq fun σ i _ => (agreeStill_groupAt m i).agree

theorem agreeStill_cut (cs : List Char) (start n : ℕ) :
    ρ.AgreeStill ρ.Values (cut cs start n) (cut cs start n) :=
  (agreeStill_orPanic_eq _).bind_eq fun _ => agreeStill_newString rfl

theorem agree_part (hs : send.Uniform) (text : String) (hv : ρ.Values v v') {x x' : Option Value}
    (hx : Option.Rel ρ.Values x x') :
    ρ.Agree Renaming.Values (part send text v x) (part send text v' x') := by
  unfold part
  refine (agree_toInt hs hv).bind_eq fun σ i hle => (agreeStill_fromEnd i _).bind_eq fun start => ?_
  cases hx with
  | none =>
    dsimp only
    split
    · exact agree_pure .nil
    · exact (agreeStill_cut _ _ _).agree
  | some hlength =>
    refine (agree_toInt hs (hlength.mono hle)).bind_eq fun τ n _ => ?_
    dsimp only
    split
    · exact agree_pure .nil
    · exact (agreeStill_sum _ _).bind_eq fun room => (agreeStill_cut _ _ _).agree

theorem agree_refer (hs : send.Uniform) (text : String) (hv : ρ.Values v v') {x x' : Option Value}
    (hx : Option.Rel ρ.Values x x') :
    ρ.Agree Renaming.Values (refer send text v x) (refer send text v' x') := by
  have hself := hv
  cases hv with
  | regexp r =>
    refine (agreeStill_lookFor r text).bind_eq fun found => ?_
    cases found with
    | none => exact agree_pure .nil
    | some m =>
      exact (agree_selectGroup hs m hx).bind_eq fun σ group _ =>
        (agreeStill_optionalString group).agree
  | string needle =>
    unfold refer
    rw [isSome_eq_of_rel hx]
    dsimp only
    split
    · exact agree_fail rfl
    · split
      · exact (agreeStill_newString rfl).agree
      · exact agree_pure .nil
  | _ => exact agree_part hs text hself hx

theorem agree_matchOffset (text : String) (hv : ρ.Values v v') :
    ρ.Agree Renaming.Values (matchOffset text v) (matchOffset text v') := by
  have hself := hv
  cases hv with
  | regexp r =>
    refine (agreeStill_lookFor r text).bind_eq fun found => ?_
    cases found with
    | none => exact agree_pure .nil
    | some m =>
      refine (agreeStill_orPanic_eq (m.begin? 0)).bind_eq fun n => ?_
      cases n with
      | some n => exact agree_count rfl
      | none => exact agree_pure .nil
  | _ => exact agree_wrongArgument hself _

theorem agreeStill_lookAtFront (r : Regexp) (text : String) :
    ρ.AgreeStill Eq (lookAtFront r text) (lookAtFront r text) := by
  unfold lookAtFront
  split
  · refine agreeStill_fresh.bind_eq fun id => (agreeStill_orPanic_eq _).bind_eq fun n => ?_
    split
    · exact (agreeStill_setLastMatch (.matched _)).bind_eq fun _ => agreeStill_pure rfl
    · exact (agreeStill_setLastMatch .nil).bind_eq fun _ => agreeStill_pure rfl
  · exact (agreeStill_setLastMatch .nil).bind_eq fun _ => agreeStill_pure rfl

theorem agree_anyAtFront (hs : send.Uniform) (text : String) {ps ps' : List Value}
    (hps : ρ.Items ps ps') : ρ.AgreeEq (anyAtFront send text ps) (anyAtFront send text ps') := by
  induction ps generalizing ρ ps' with
  | nil =>
    cases hps
    exact agree_pure rfl
  | cons v rest ih =>
    obtain - | ⟨hv, hrest⟩ := hps
    have hself := hv
    cases hv with
    | regexp r =>
      unfold anyAtFront
      refine (agreeStill_lookAtFront r text).bind_eq fun found => ?_
      cases found with
      | true => exact agree_pure rfl
      | false => exact ih hrest
    | _ =>
      unfold anyAtFront
      refine (agree_toStr hs hself).bind_eq fun σ start hle => ?_
      split
      · exact agree_pure rfl
      · exact ih (Items.mono hrest hle)

theorem agree_anyAtEnd (hs : send.Uniform) (text : String) {ps ps' : List Value}
    (hps : ρ.Items ps ps') : ρ.AgreeEq (anyAtEnd send text ps) (anyAtEnd send text ps') := by
  induction ps generalizing ρ ps' with
  | nil =>
    cases hps
    exact agree_pure rfl
  | cons v rest ih =>
    obtain - | ⟨hv, hrest⟩ := hps
    unfold anyAtEnd
    refine (agree_toStr hs hv).bind_eq fun σ tail hle => ?_
    split
    · exact agree_pure rfl
    · exact ih (Items.mono hrest hle)

theorem agreeStill_casingOf (casing : Casing) {options options' : List Value}
    (h : ρ.Items options options') :
    ρ.AgreeStill Eq (casingOf casing options) (casingOf casing options') := by
  induction h generalizing casing with
  | nil => exact agreeStill_pure rfl
  | cons hv _ ih =>
    have hself := hv
    unfold casingOf
    cases hv with
    | symbol ht =>
      dsimp only
      rw [ht.name_eq, Symbol.inspect_congr ht.name_eq]
      split
      · exact ih _
      · split
        · exact ih _
        · exact agree_fail rfl
    | _ =>
      refine agreeStill_heap.bind fun h h' hh => ?_
      exact (agreeStill_orEndless_eq (hh.inspect?_eq hself)).bind_eq fun text => agree_fail rfl

theorem agreeStill_casing (hargs : ρ.Arguments args args') :
    ρ.AgreeStill Eq (casing args) (casing args') :=
  (agreeStill_check hargs _).bind_eq fun _ => agreeStill_casingOf _ hargs.items

theorem agree_run (hs : send.Uniform) (m : StringMethod) (hself : ρ.Values self self')
    (hargs : ρ.Arguments args args') :
    ρ.Agree Renaming.Values (m.run send self args) (m.run send self' args') := by
  unfold run
  extract_lets body body'
  have hbody : ∀ u, ρ.Agree Renaming.Values (body u) (body' u) := by
    intro u
    refine (agreeStill_receiver hself).bind_eq fun s => ?_
    cases m with
    | upcase | downcase | swapcase | capitalize =>
      exact (agreeStill_casing hargs).bind_eq fun _ => (agreeStill_newString rfl).agree
    | succ => exact (agreeStill_newString rfl).agree
    | length => exact agree_count rfl
    | isEmpty => exact agree_bool rfl
    | toS => exact agree_pure hself
    | ref => exact (agreeStill_arg hargs 0).bind fun v v' hv => agree_refer hs _ hv (hargs.get? 1)
    | search => exact (agreeStill_arg hargs 0).bind fun v v' hv => agree_matchOffset _ hv
    | startsWith => exact (agree_anyAtFront hs _ hargs.items).bind_eq fun _ _ _ => agree_bool rfl
    | endsWith => exact (agree_anyAtEnd hs _ hargs.items).bind_eq fun _ _ _ => agree_bool rfl
    | toSym => exact (agree_intern _).bind fun _ _ _ _ ht => agree_pure (.symbol ht)
    | equal =>
      refine (agreeStill_arg hargs 0).bind fun v v' hv => ?_
      cases hv <;> exact agree_bool rfl
    | compare =>
      refine (agreeStill_arg hargs 0).bind fun v v' hv => ?_
      cases hv with
      | string t => exact agree_pure (values_ordering _)
      | _ => exact agree_pure .nil
    | plus =>
      refine (agreeStill_arg hargs 0).bind fun v v' hv => ?_
      exact (agree_toStr hs hv).bind_eq fun _ _ _ => (agreeStill_newString rfl).agree
  split
  · exact (agreeStill_check hargs _).bind_eq fun _ => hbody ()
  · exact hbody ()

end StringMethod

namespace SymbolMethod

theorem agree_receiver (hv : ρ.Values v v') : ρ.AgreeStill ρ.Pairs (receiver v) (receiver v') := by
  have hself := hv
  cases hv with
  | symbol hs => exact agreeStill_pure hs
  | _ => exact agree_wrongArgument hself _

variable {s s' : Symbol}

theorem agreeStill_nameString (hs : ρ.Pairs s s') :
    ρ.AgreeStill Eq (nameString s) (nameString s') :=
  agreeStill_onHeap fun _ _ hh => hh.nameString hs

theorem agree_proc (hs : ρ.Pairs s s') : ρ.Agree Renaming.Values (proc s) (proc s') :=
  agreeStill_fresh.bind_eq fun id => agree_pure (.proc id (.send hs) true)

theorem values_comparison {order : Symbol → Symbol → Ordering}
    (horder : ∀ {t t'}, ρ.Pairs t t' → order s t = order s' t') (hv : ρ.Values v v') :
    ρ.Values (comparison s order v) (comparison s' order v') := by
  cases hv with
  | symbol ht =>
    simp only [comparison, horder ht]
    exact values_ordering _
  | _ => exact .nil

theorem values_sameButCase (hs : ρ.Pairs s s') (hv : ρ.Values v v') :
    ρ.Values (sameButCase s v) (sameButCase s' v') := by
  cases hv with
  | symbol ht =>
    simp only [sameButCase, Symbol.eqCaseless, hs.name_eq, ht.name_eq]
    exact .bool _
  | _ => exact .nil

theorem values_isSame (hs : ρ.Pairs s s') (hv : ρ.Values v v') :
    ρ.Values (isSame s v) (isSame s' v') := by
  cases hv with
  | symbol ht =>
    simp only [isSame, ht.same_eq hs]
    exact .bool _
  | _ => exact .bool _

theorem agree_transform (hsend : send.Uniform) (hs : ρ.Pairs s s') (message : String)
    (hargs : ρ.Arguments args args') :
    ρ.Agree Renaming.Pairs (transform send s message args) (transform send s' message args') := by
  have hfresh : ρ.AgreeStill ρ.Values (freshName s) (freshName s') :=
    agreeStill_newString hs.name_eq
  refine hfresh.bind fun v v' hv => (agree_byName hsend hv message hargs).bind fun σ a b _ hab => ?_
  have hname := hab.className_eq
  cases hab with
  | string t => exact agree_intern _
  | _ => exact agree_fail (by rw [hname])

theorem agree_matchOffset (hs : ρ.Pairs s s') (hv : ρ.Values v v') :
    ρ.Agree Renaming.Values (matchOffset s v) (matchOffset s' v') := by
  have hself := hv
  cases hv with
  | regexp r =>
    exact (agreeStill_nameString hs).bind_eq fun str =>
      StringMethod.agree_matchOffset str.text hself
  | _ => exact agree_wrongArgument hself _

theorem agree_run (hsend : send.Uniform) (m : SymbolMethod) (hself : ρ.Values self self')
    (hargs : ρ.Arguments args args') :
    ρ.Agree Renaming.Values (m.run send self args) (m.run send self' args') := by
  unfold run
  extract_lets body body'
  have hbody : ∀ u, ρ.Agree Renaming.Values (body u) (body' u) := by
    intro u
    refine (agree_receiver hself).bind fun s s' hs => ?_
    have hname := hs.name_eq
    cases m with
    | toS => exact (agreeStill_newString hname).agree
    | name => exact (agreeStill_nameString hs).bind_eq fun str => agree_pure (.string str)
    | inspect => exact (agreeStill_newString (Symbol.inspect_congr hname)).agree
    | toSym => exact agree_pure hself
    | toProc => exact agree_proc hs
    | length => exact agree_count (by rw [Symbol.length, Symbol.length, hname])
    | compare =>
      refine (agreeStill_arg hargs 0).bind fun v v' hv =>
        agree_pure (values_comparison (fun ht => ?_) hv)
      rw [Symbol.compareNames, Symbol.compareNames, hname, ht.name_eq]
    | caseless =>
      refine (agreeStill_arg hargs 0).bind fun v v' hv =>
        agree_pure (values_comparison (fun ht => ?_) hv)
      rw [Symbol.compareCaseless, Symbol.compareCaseless, hname, ht.name_eq]
    | equal => exact (agreeStill_arg hargs 0).bind fun v v' hv => agree_pure (values_isSame hs hv)
    | equalCaseless =>
      exact (agreeStill_arg hargs 0).bind fun v v' hv => agree_pure (values_sameButCase hs hv)
    | startsWith =>
      refine Agree.bind_eq ?_ fun _ _ _ => agree_bool rfl
      exact (agreeStill_nameString hs).bind_eq fun str =>
        StringMethod.agree_anyAtFront hsend _ hargs.items
    | endsWith =>
      refine Agree.bind_eq ?_ fun _ _ _ => agree_bool rfl
      exact (agreeStill_nameString hs).bind_eq fun str =>
        StringMethod.agree_anyAtEnd hsend _ hargs.items
    | ref =>
      refine (agreeStill_arg hargs 0).bind fun v v' hv => ?_
      unfold refer
      rw [hname]
      exact StringMethod.agree_refer hsend _ hv (hargs.get? 1)
    | search => exact (agreeStill_arg hargs 0).bind fun v v' hv => agree_matchOffset hs hv
    | succ | upcase | downcase | swapcase | capitalize =>
      exact (agree_transform hsend hs _ hargs).bind fun σ t t' _ ht => agree_pure (.symbol ht)
  split
  · exact (agreeStill_check hargs _).bind_eq fun _ => hbody ()
  · exact hbody ()

end SymbolMethod

namespace MatchMethod

theorem agreeStill_receiver (hv : ρ.Values v v') : ρ.AgreeStill Eq (receiver v) (receiver v') := by
  have hself := hv
  cases hv with
  | matched m => exact agreeStill_pure rfl
  | _ => exact agree_wrongArgument hself _

theorem agree_select (hs : send.Uniform) (m : Match) (hv : ρ.Values v v') :
    ρ.AgreeEq (select send m v) (select send m v') := by
  have hself := hv
  cases hv with
  | string s => exact agree_pure rfl
  | symbol ht => exact agree_pure (congrArg m.named? ht.name_eq)
  | _ =>
    exact (agree_toInt hs hself).bind_eq fun σ i _ => (StringMethod.agreeStill_groupAt m i).agree

theorem agree_offsetOf (m : Match) (i : Int64) :
    ρ.Agree Renaming.Values (offsetOf m i) (offsetOf m i) := by
  unfold offsetOf
  split
  · refine (agreeStill_orPanic_eq _).bind_eq fun n => ?_
    cases n with
    | some n => exact agree_count rfl
    | none => exact agree_pure .nil
  · exact agree_fail rfl

theorem agreeStill_texts (found : List (Option String)) :
    ρ.AgreeStill ρ.Items (texts found) (texts found) := by
  induction found with
  | nil => exact agreeStill_pure .nil
  | cons t rest ih =>
    refine (agreeStill_optionalString t).bind fun v v' hv => ih.bind fun items items' hitems => ?_
    exact agreeStill_pure (.cons hv hitems)

theorem agree_run (hs : send.Uniform) (m : MatchMethod) (hself : ρ.Values self self')
    (hargs : ρ.Arguments args args') :
    ρ.Agree Renaming.Values (m.run send self args) (m.run send self' args') := by
  unfold run
  refine (agreeStill_check hargs m.arity).bind_eq fun _ =>
    (agreeStill_receiver hself).bind_eq fun found => ?_
  cases m with
  | ref =>
    refine (agreeStill_arg hargs 0).bind fun v v' hv =>
      (agree_select hs found hv).bind_eq fun σ group _ => ?_
    exact (agreeStill_optionalString group).agree
  | toS => exact (agreeStill_newString rfl).agree
  | pre | post => exact (agreeStill_orPanic_eq _).bind_eq fun _ => (agreeStill_newString rfl).agree
  | captures => exact (agreeStill_texts _).bind fun _ _ hitems => (agreeStill_newArray hitems).agree
  | offset =>
    refine (agreeStill_arg hargs 0).bind fun v v' hv => ?_
    exact (agree_toInt hs hv).bind_eq fun σ i _ => agree_offsetOf found i

end MatchMethod

end LateBinding
