import LateBinding.Method.Match
import LateBinding.Method.Symbol
import LateBinding.Proofs.Machine.Contract

/-! # Methods of strings, symbols and matches

Only looking for a regexp sets the register of the last match, only the name and searches ask a
symbol for its string, and parts are told from sizes that 64 bits can count.
-/

namespace LateBinding

open Eval Contract

variable {C : Contract} [C.Lawful] {send : Sender} {self : Value} {args : Args}

namespace StringMethod

theorem meets_receiver (v : Value) : (receiver v).Meets C (v = .string ·) := by
  unfold receiver
  split
  · exact .pure rfl
  · exact meets_wrongArgument _ _

theorem meets_lookFor (hset : C.MaySet) (r : Regexp) (text : String) :
    (lookFor r text).Meets C fun found => ∀ m ∈ found, m.Found ∧ m.regexp = r := by
  unfold lookFor
  split
  · next groups hgroups =>
    refine meets_fresh.bind fun id _ => ?_
    have hfound : Match.Found ⟨id, r, text, groups⟩ := ⟨0, hgroups⟩
    have hvalue : C.value (.matched ⟨id, r, text, groups⟩) := Lawful.made hfound
    refine (meets_setLastMatch hset hvalue).bind fun _ _ => .pure ?_
    simpa using hfound
  · have hnil : C.value .nil := Lawful.made trivial
    exact (meets_setLastMatch hset hnil).bind fun _ _ => .pure (by simp)

theorem meets_namedGroup (m : Match) (name : String) :
    (namedGroup m name).Meets C fun _ => True := by
  unfold namedGroup
  split
  · exact .pure trivial
  · exact meets_fail _

theorem meets_groupAt {m : Match} (hm : C.faults .panic ∨ Sized m.size) (i : Int64) :
    (groupAt m i).Meets C fun _ => True := by
  unfold groupAt
  split
  · next hi => exact (meets_sum_of_sized hi hm).bind fun _ _ => .pure trivial
  · exact Meets.bind (P := fun _ => True) (.pure trivial) fun _ _ => .pure trivial

theorem meets_selectGroup (hs : C.Sends send) {m : Match} (hm : C.faults .panic ∨ Sized m.size)
    {selector : Option Value} (hv : ∀ v ∈ selector, C.value v) :
    (selectGroup send m selector).Meets C fun _ => True := by
  unfold selectGroup
  split
  · exact .pure trivial
  · exact meets_namedGroup m _
  · exact meets_namedGroup m _
  · exact (meets_toInt hs (hv _ rfl)).bind fun i _ => meets_groupAt hm i

theorem meets_fromEnd {count : ℕ} (hc : C.faults .panic ∨ Sized count) (i : Int64) :
    (fromEnd i count).Meets C fun _ => True := by
  unfold fromEnd
  split
  · next hi => exact meets_sum_of_sized hi hc
  · exact .pure trivial

theorem meets_cut (cs : List Char) (start n : ℕ) : (cut cs start n).Meets C C.value := by
  have hcut : (Slice.cut? start n cs).isSome = true := by rw [Slice.cut?_eq]; rfl
  exact (meets_orPanic (.inr hcut)).bind fun _ _ => meets_newString _

theorem meets_part (hs : C.Sends send) {text : String}
    (ht : C.faults .panic ∨ Sized text.toList.length) {index : Value} (hi : C.value index)
    {length : Option Value} (hl : ∀ v ∈ length, C.value v) :
    (part send text index length).Meets C C.value := by
  unfold part
  refine (meets_toInt hs hi).bind fun i _ => (meets_fromEnd ht _).bind fun start _ => ?_
  cases length with
  | none =>
    dsimp only
    split
    · exact .pure (Lawful.made trivial)
    · exact meets_cut _ _ _
  | some length =>
    refine (meets_toInt hs (hl _ rfl)).bind fun n _ => ?_
    dsimp only
    split
    · exact .pure (Lawful.made trivial)
    · next hin =>
      refine (meets_sum (ht.imp_right fun ht => ?_)).bind fun _ _ => meets_cut _ _ _
      unfold Sized at ht
      unfold IsWord
      unfold wordBound at *
      omega

theorem meets_refer (hs : C.Sends send) {text : String}
    (ht : C.faults .panic ∨ Sized text.toList.length) {index : Value} (hi : C.value index)
    (hset : ∀ r, index = .regexp r → C.MaySet ∧ (C.faults .panic ∨ Sized r.groupNames.length))
    {length : Option Value} (hl : ∀ v ∈ length, C.value v) :
    (refer send text index length).Meets C C.value := by
  unfold refer
  split
  · next r =>
    obtain ⟨hset, hgroups⟩ := hset r rfl
    refine (meets_lookFor hset r text).bind fun found hfound => ?_
    cases found with
    | none => exact .pure (Lawful.made trivial)
    | some m =>
      obtain ⟨hm, rfl⟩ := hfound m rfl
      rw [← hm.size_eq] at hgroups
      exact (meets_selectGroup hs hgroups hl).bind fun _ _ => meets_optionalString _
  · split
    · exact meets_fail _
    · split
      · exact meets_newString _
      · exact .pure (Lawful.made trivial)
  · exact meets_part hs ht hi hl

theorem meets_matchOffset (text : String) {pattern : Value}
    (hset : ∀ r, pattern = .regexp r → C.MaySet) : (matchOffset text pattern).Meets C C.value := by
  unfold matchOffset
  cases pattern with
  | regexp r =>
    refine (meets_lookFor (hset r rfl) r text).bind fun found hfound => ?_
    cases found with
    | none => exact .pure (Lawful.made trivial)
    | some m =>
      refine (meets_orPanic (.inr ((hfound m rfl).1.begin?_isSome 0))).bind fun n _ => ?_
      cases n <;> exact .pure (Lawful.made trivial)
  | _ => exact meets_wrongArgument _ _

theorem meets_lookAtFront (hset : C.MaySet) (r : Regexp) (text : String) :
    (lookAtFront r text).Meets C fun _ => True := by
  have hnil : C.value .nil := Lawful.made trivial
  unfold lookAtFront
  split
  · next groups hgroups =>
    refine meets_fresh.bind fun id _ => ?_
    have hfound : Match.Found ⟨id, r, text, groups⟩ := ⟨0, hgroups⟩
    have hvalue : C.value (.matched ⟨id, r, text, groups⟩) := Lawful.made hfound
    refine (meets_orPanic (.inr (hfound.begin?_isSome 0))).bind fun n _ => ?_
    split
    · exact (meets_setLastMatch hset hvalue).bind fun _ _ => .pure trivial
    · exact (meets_setLastMatch hset hnil).bind fun _ _ => .pure trivial
  · exact (meets_setLastMatch hset hnil).bind fun _ _ => .pure trivial

theorem meets_anyAtFront (hs : C.Sends send) (text : String) {patterns : List Value}
    (hv : ∀ v ∈ patterns, C.value v) (hset : ∀ r, .regexp r ∈ patterns → C.MaySet) :
    (anyAtFront send text patterns).Meets C fun _ => True := by
  induction patterns with
  | nil => exact .pure trivial
  | cons v rest ih =>
    replace ih := ih (fun w hw => hv w (List.mem_cons_of_mem _ hw))
      fun r hr => hset r (List.mem_cons_of_mem _ hr)
    cases v with
    | regexp r =>
      unfold anyAtFront
      refine (meets_lookAtFront (hset r List.mem_cons_self) r text).bind fun found _ => ?_
      cases found with
      | true => exact .pure trivial
      | false => exact ih
    | _ =>
      unfold anyAtFront
      refine (meets_toStr hs (hv _ List.mem_cons_self)).bind fun start _ => ?_
      split
      · exact .pure trivial
      · exact ih

theorem meets_anyAtEnd (hs : C.Sends send) (text : String) {patterns : List Value}
    (hv : ∀ v ∈ patterns, C.value v) : (anyAtEnd send text patterns).Meets C fun _ => True := by
  induction patterns with
  | nil => exact .pure trivial
  | cons v rest ih =>
    unfold anyAtEnd
    refine (meets_toStr hs (hv v List.mem_cons_self)).bind fun tail _ => ?_
    split
    · exact .pure trivial
    · exact ih fun w hw => hv w (List.mem_cons_of_mem _ hw)

theorem meets_casingOf (casing : Casing) {options : List Value} (hends : C.Ends options) :
    (casingOf casing options).Meets C fun _ => True := by
  induction options generalizing casing with
  | nil => exact .pure trivial
  | cons v rest ih =>
    replace ih := fun casing => ih casing (hends.subset fun w hw => List.mem_cons_of_mem v hw)
    unfold casingOf
    cases v with
    | symbol s =>
      dsimp only
      split
      · exact ih _
      · split
        · exact ih _
        · exact meets_fail _
    | _ =>
      refine meets_heap.bind ?_
      rintro _ ⟨m, hm, rfl⟩
      exact (meets_inspect hends hm List.mem_cons_self).bind fun _ _ => meets_fail _

theorem meets_casing (hends : C.Ends args.items) : (casing args).Meets C fun _ => True :=
  (meets_check _ _).bind fun _ _ => meets_casingOf _ hends

def isSearch : StringMethod → Bool
  | ref | search | startsWith => true
  | _ => false

def isLooking : StringMethod → Bool
  | upcase | downcase | swapcase | capitalize => true
  | _ => false

theorem meets_run (hs : C.Sends send) (m : StringMethod) (hargs : ∀ v ∈ args.items, C.value v)
    (hends : m.isLooking = true → C.Ends args.items)
    (hset : m.isSearch = true → ∀ s, self = .string s → ∀ r, .regexp r ∈ args.items → C.MaySet)
    (hsized : m = .ref → C.faults .panic ∨ (∀ s, self = .string s → Sized s.chars.length) ∧
      ∀ r, .regexp r ∈ args.items → Sized r.groupNames.length) :
    (m.run send self args).Meets C C.value := by
  unfold run
  extract_lets body
  have hbody : (∀ a, m.arity? = some a → a.least ≤ args.size) → ∀ u, (body u).Meets C C.value := by
    intro hsize u
    refine (meets_receiver self).bind fun s hself => ?_
    replace hset := fun hm => hset hm s hself
    cases m with
    | upcase | downcase | swapcase | capitalize =>
      exact (meets_casing (hends rfl)).bind fun _ _ => meets_newString _
    | succ => exact meets_newString _
    | length | isEmpty => exact .pure (Lawful.made trivial)
    | toS => exact .pure (hself ▸ Lawful.made trivial)
    | ref =>
      refine (meets_arg (hsize _ rfl)).bind fun index hindex => ?_
      have hsized := hsized rfl
      refine meets_refer hs (hsized.imp_right fun h => h.1 s hself) (hargs index hindex) ?_ ?_
      · rintro r rfl
        exact ⟨hset rfl r hindex, hsized.imp_right fun h => h.2 r hindex⟩
      · exact fun v hv => hargs v (List.mem_of_getElem? hv)
    | search =>
      refine (meets_arg (hsize _ rfl)).bind fun pattern hpattern => ?_
      exact meets_matchOffset s.text fun r hr => hset rfl r (hr ▸ hpattern)
    | startsWith =>
      refine (meets_anyAtFront hs s.text hargs fun r hr => hset rfl r hr).bind fun _ _ => ?_
      exact .pure (Lawful.made trivial)
    | endsWith =>
      exact (meets_anyAtEnd hs s.text hargs).bind fun _ _ => .pure (Lawful.made trivial)
    | toSym => exact (meets_intern s.text).bind fun _ _ => .pure (Lawful.made trivial)
    | equal =>
      refine (meets_arg (hsize _ rfl)).bind fun v _ => ?_
      split <;> exact .pure (Lawful.made trivial)
    | compare =>
      refine (meets_arg (hsize _ rfl)).bind fun v _ => ?_
      split
      · exact .pure (value_ordering _)
      · exact .pure (Lawful.made trivial)
    | plus =>
      refine (meets_arg (hsize _ rfl)).bind fun v hv => ?_
      exact (meets_toStr hs (hargs v hv)).bind fun _ _ => meets_newString _
  split
  · next a ha =>
    refine (meets_check args a).bind fun _ hsize => hbody (fun b hb => ?_) ()
    rw [ha] at hb
    exact Option.some.inj hb ▸ hsize
  · next hnone => exact hbody (fun a ha => absurd ha (hnone a)) ()

end StringMethod

namespace SymbolMethod

theorem meets_receiver (v : Value) : (receiver v).Meets C (v = .symbol ·) := by
  unfold receiver
  split
  · exact .pure rfl
  · exact meets_wrongArgument _ _

omit [C.Lawful] in
theorem meets_nameString {s : Symbol} (hname : C.MayName s) :
    (nameString s).Meets C fun _ => True :=
  ⟨fun m hm => ⟨hname m hm, trivial⟩⟩

theorem meets_proc (s : Symbol) : (proc s).Meets C C.value :=
  meets_fresh.bind fun id _ => .pure (Lawful.made (v := .proc ⟨id, .send s, true⟩) trivial)

theorem meets_transform (hs : C.Sends send) (s : Symbol) {message : String}
    (hm : message ∈ Builtin.derivations) (hargs : ∀ v ∈ args.items, C.value v)
    (hends : C.Ends args.items) : (transform send s message args).Meets C fun _ => True := by
  unfold transform
  refine (meets_freshString s.name).bind ?_
  rintro _ ⟨str, rfl⟩
  refine (hs.derive str message hm hargs hends).bind fun answer _ => ?_
  split
  · exact meets_intern _
  · exact meets_fail _

theorem meets_startsWithAny (hs : C.Sends send) {s : Symbol} (hname : C.MayName s)
    {patterns : List Value} (hv : ∀ v ∈ patterns, C.value v)
    (hset : ∀ r, .regexp r ∈ patterns → C.MaySet) :
    (startsWithAny send s patterns).Meets C fun _ => True :=
  (meets_nameString hname).bind fun _ _ => StringMethod.meets_anyAtFront hs _ hv hset

theorem meets_endsWithAny (hs : C.Sends send) {s : Symbol} (hname : C.MayName s)
    {patterns : List Value} (hv : ∀ v ∈ patterns, C.value v) :
    (endsWithAny send s patterns).Meets C fun _ => True :=
  (meets_nameString hname).bind fun _ _ => StringMethod.meets_anyAtEnd hs _ hv

theorem meets_matchOffset {s : Symbol} (hname : C.MayName s) {pattern : Value}
    (hset : ∀ r, pattern = .regexp r → C.MaySet) : (matchOffset s pattern).Meets C C.value := by
  unfold matchOffset
  split
  · exact (meets_nameString hname).bind fun str _ => StringMethod.meets_matchOffset str.text hset
  · exact meets_wrongArgument _ _

theorem value_comparison (s : Symbol) (order : Symbol → Symbol → Ordering) (v : Value) :
    C.value (comparison s order v) := by
  cases v with
  | symbol t => exact value_ordering _
  | _ => exact Lawful.made trivial

theorem value_sameButCase (s : Symbol) (v : Value) : C.value (sameButCase s v) := by
  cases v <;> exact Lawful.made trivial

theorem value_isSame (s : Symbol) (v : Value) : C.value (isSame s v) := by
  cases v <;> exact Lawful.made trivial

def isSearch : SymbolMethod → Bool
  | ref | search | startsWith => true
  | _ => false

def isNaming : SymbolMethod → Bool
  | name | search | startsWith | endsWith => true
  | _ => false

def isLooking : SymbolMethod → Bool
  | succ | upcase | downcase | swapcase | capitalize => true
  | _ => false

theorem meets_run (hs : C.Sends send) (m : SymbolMethod) (hargs : ∀ v ∈ args.items, C.value v)
    (hends : m.isLooking = true → C.Ends args.items)
    (hname : m.isNaming = true → ∀ s, self = .symbol s → C.MayName s)
    (hset : m.isSearch = true → ∀ s, self = .symbol s → ∀ r, .regexp r ∈ args.items → C.MaySet)
    (hsized : m = .ref → C.faults .panic ∨ (∀ s, self = .symbol s → Sized s.length) ∧
      ∀ r, .regexp r ∈ args.items → Sized r.groupNames.length) :
    (m.run send self args).Meets C C.value := by
  unfold run
  extract_lets body
  have hbody : (∀ a, m.arity? = some a → a.least ≤ args.size) → ∀ u, (body u).Meets C C.value := by
    intro hsize u
    refine (meets_receiver self).bind fun s hself => ?_
    replace hset := fun hm => hset hm s hself
    replace hname := fun hm => hname hm s hself
    cases m with
    | toS => exact meets_newString _
    | name => exact (meets_nameString (hname rfl)).bind fun _ _ => .pure (Lawful.made trivial)
    | inspect => exact meets_newString _
    | toSym => exact .pure (hself ▸ Lawful.made trivial)
    | length => exact .pure (Lawful.made trivial)
    | toProc => exact meets_proc s
    | compare | caseless =>
      exact (meets_arg (hsize _ rfl)).bind fun v _ => .pure (value_comparison _ _ v)
    | equal => exact (meets_arg (hsize _ rfl)).bind fun v _ => .pure (value_isSame s v)
    | equalCaseless => exact (meets_arg (hsize _ rfl)).bind fun v _ => .pure (value_sameButCase s v)
    | startsWith =>
      refine (meets_startsWithAny hs (hname rfl) hargs fun r hr => hset rfl r hr).bind fun _ _ => ?_
      exact .pure (Lawful.made trivial)
    | endsWith =>
      exact (meets_endsWithAny hs (hname rfl) hargs).bind fun _ _ => .pure (Lawful.made trivial)
    | ref =>
      refine (meets_arg (hsize _ rfl)).bind fun index hindex => ?_
      have hsized := hsized rfl
      refine StringMethod.meets_refer hs (hsized.imp_right fun h => h.1 s hself)
        (hargs index hindex) ?_ ?_
      · rintro r rfl
        exact ⟨hset rfl r hindex, hsized.imp_right fun h => h.2 r hindex⟩
      · exact fun v hv => hargs v (List.mem_of_getElem? hv)
    | search =>
      refine (meets_arg (hsize _ rfl)).bind fun pattern hpattern => ?_
      exact meets_matchOffset (hname rfl) fun r hr => hset rfl r (hr ▸ hpattern)
    | succ | upcase | downcase | swapcase | capitalize =>
      refine (meets_transform hs s (by decide) hargs (hends rfl)).bind fun t _ => ?_
      exact .pure (Lawful.made trivial)
  split
  · next a ha =>
    refine (meets_check args a).bind fun _ hsize => hbody (fun b hb => ?_) ()
    rw [ha] at hb
    exact Option.some.inj hb ▸ hsize
  · next hnone => exact hbody (fun a ha => absurd ha (hnone a)) ()

end SymbolMethod

namespace MatchMethod

theorem meets_receiver (v : Value) : (receiver v).Meets C (v = .matched ·) := by
  unfold receiver
  split
  · exact .pure rfl
  · exact meets_wrongArgument _ _

theorem meets_groupAt {m : Match} (hm : C.faults .panic ∨ Sized m.size) (i : Int64) :
    (groupAt m i).Meets C fun _ => True := by
  unfold groupAt
  split
  · next hi => exact (meets_sum_of_sized hi hm).bind fun _ _ => .pure trivial
  · exact Meets.bind (P := fun _ => True) (.pure trivial) fun _ _ => .pure trivial

theorem meets_select (hs : C.Sends send) {m : Match} (hm : C.faults .panic ∨ Sized m.size)
    {selector : Value} (hv : C.value selector) :
    (select send m selector).Meets C fun _ => True := by
  unfold select
  split
  · exact .pure trivial
  · exact .pure trivial
  · exact (meets_toInt hs hv).bind fun i _ => meets_groupAt hm i

theorem meets_offsetOf {m : Match} (hm : C.faults .panic ∨ m.Found) (i : Int64) :
    (offsetOf m i).Meets C C.value := by
  unfold offsetOf
  split
  · refine (meets_orPanic (hm.imp_right fun hm => hm.begin?_isSome _)).bind fun n _ => ?_
    cases n <;> exact .pure (Lawful.made trivial)
  · exact meets_fail _

theorem meets_texts (found : List (Option String)) :
    (texts found).Meets C fun items => ∀ v ∈ items, C.value v := by
  induction found with
  | nil => exact .pure (by simp)
  | cons t rest ih =>
    refine (meets_optionalString t).bind fun v hv => ih.bind fun items hitems => .pure ?_
    simpa using ⟨hv, hitems⟩

theorem meets_run (hs : C.Sends send) (m : MatchMethod) (hself : C.value self)
    (hargs : ∀ v ∈ args.items, C.value v)
    (hsized : m = .ref → C.faults .panic ∨ ∀ found, self = .matched found → Sized found.size) :
    (m.run send self args).Meets C C.value := by
  unfold run
  refine (meets_check args m.arity).bind fun _ hsize => (meets_receiver self).bind ?_
  rintro found rfl
  have hfound : C.faults .panic ∨ found.Found := Lawful.sound.imp_right fun h => h _ hself
  cases m with
  | ref =>
    refine (meets_arg hsize).bind fun selector hmem => ?_
    refine (meets_select hs ((hsized rfl).imp_right fun h => h found rfl)
      (hargs selector hmem)).bind ?_
    exact fun text _ => meets_optionalString text
  | toS => exact meets_newString _
  | pre =>
    exact (meets_orPanic (hfound.imp_right Match.Found.pre?_isSome)).bind fun text _ =>
      meets_newString text
  | post =>
    exact (meets_orPanic (hfound.imp_right Match.Found.post?_isSome)).bind fun text _ =>
      meets_newString text
  | captures => exact (meets_texts _).bind fun items hitems => meets_newArray hitems
  | offset =>
    refine (meets_arg hsize).bind fun v hmem => ?_
    exact (meets_toInt hs (hargs v hmem)).bind fun i _ => meets_offsetOf hfound i

end MatchMethod

end LateBinding
