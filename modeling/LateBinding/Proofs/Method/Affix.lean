import LateBinding.Proofs.Method.Selection
import LateBinding.Proofs.Method.StringConversion

/-! # Patterns at the front and at the end

A text is tested against patterns from the first one on, until one decides: one that stands at its
place, or one that cannot be converted. The patterns behind it have no effect. A regexp that does
not decide clears the register.
-/

namespace LateBinding

open Eval

variable {m m' : Machine} {host : Host} {n : ℕ} {v : Value} {text : String} {t : Str}

def Value.isRegexp : Value → Bool
  | .regexp _ => true
  | _ => false

namespace StringMethod

/-- How a pattern decides a test: it stands at its place, where a regexp leaves its match, or it
fails. -/
inductive Verdict
  | finds (r : Regexp) (groups : List (Option Span))
  | holds
  | fails (e : Fault)

namespace Verdict

def answer : Verdict → Except Fault Bool
  | finds _ _ | holds => .ok true
  | fails e => .error e

def Leaves (w : Verdict) (text : String) (old new : Value) : Prop :=
  match w with
  | finds r groups => ∃ id, new = .matched ⟨id, r, text, groups⟩
  | _ => new = old

end Verdict

def stringVerdict? (host : Host) (n : ℕ) (stands : Str → Bool) (m : Machine) (v : Value) :
    Option Verdict :=
  match toStr (sendWithin host (n + 1)) v m with
  | .ok s _ => if stands s then some .holds else none
  | .error e _ => some (.fails e)

def frontGroups? (r : Regexp) (text : String) : Option (List (Option Span)) :=
  (Match.spans? r text 0).filter fun groups => Match.begin? ⟨0, r, text, groups⟩ 0 = some (some 0)

def frontVerdict? (host : Host) (n : ℕ) (text : String) (m : Machine) : Value → Option Verdict
  | .regexp r => (frontGroups? r text).map (.finds r)
  | v => stringVerdict? host n (fun s => s.chars.isPrefixOf text.toList) m v

def endVerdict? (host : Host) (n : ℕ) (text : String) : Machine → Value → Option Verdict :=
  stringVerdict? host n fun s => s.chars.isSuffixOf text.toList

/-- A test of patterns one after the other, with what each of them decides. -/
structure Decides (text : String) (run : List Value → Eval Bool)
    (verdict? : Machine → Value → Option Verdict) :
    Prop where
  nil : run [] = pure false
  stop : ∀ {m v w}, m.Defines Builtin.definitions → verdict? m v = some w →
    ∃ m', w.Leaves text m.lastMatch m'.lastMatch ∧ ∀ rest, run (v :: rest) m = settle w.answer m'
  pass : ∀ {m v}, m.Defines Builtin.definitions → verdict? m v = none →
    ∃ m', m.Later m' ∧ m'.lastMatch = (if v.isRegexp then .nil else m.lastMatch) ∧
      ∀ rest, run (v :: rest) m = run rest m'
  stable : ∀ {m m'}, m.Defines Builtin.definitions → m.Later m' → verdict? m' = verdict? m

section Decided

variable {run : List Value → Eval Bool} {verdict? : Machine → Value → Option Verdict}
  {before : List Value} {w : Verdict} (h : Decides text run verdict?)
  (hd : m.Defines Builtin.definitions)

include h hd

theorem Decides.passes (hbefore : ∀ u ∈ before, verdict? m u = none) : ∃ m', m.Later m' ∧
    m'.lastMatch = (if before.any Value.isRegexp then .nil else m.lastMatch) ∧
      ∀ rest, run (before ++ rest) m = run rest m' := by
  -- By induction on the patterns that decide nothing.
  induction before generalizing m with
  | nil => exact ⟨m, .refl m, rfl, fun _ => rfl⟩
  | cons u before ih =>
    obtain ⟨m₁, hlater, hregister, hrun⟩ := h.pass hd (hbefore u List.mem_cons_self)
    have hafter : ∀ x ∈ before, verdict? m₁ x = none := fun x hx => by
      rw [h.stable hd hlater]
      exact hbefore x (List.mem_cons_of_mem u hx)
    obtain ⟨m₂, hlater', hregister', hrun'⟩ := ih (hd.extends hlater.keeps) hafter
    refine ⟨m₂, hlater.trans hlater', ?_, fun rest => (hrun _).trans (hrun' rest)⟩
    rw [hregister', hregister, List.any_cons]
    cases u.isRegexp <;> simp

theorem Decides.decided (hbefore : ∀ u ∈ before, verdict? m u = none) (hv : verdict? m v = some w) :
    ∃ m', w.Leaves text (if before.any Value.isRegexp then .nil else m.lastMatch) m'.lastMatch ∧
      ∀ rest, run (before ++ v :: rest) m = settle w.answer m' := by
  obtain ⟨m₁, hlater, hregister, hrun⟩ := h.passes hd hbefore
  rw [← h.stable hd hlater] at hv
  obtain ⟨m₂, hleaves, hstop⟩ := h.stop (hd.extends hlater.keeps) hv
  exact ⟨m₂, hregister ▸ hleaves, fun rest => (hrun _).trans (hstop rest)⟩

theorem Decides.undecided (hbefore : ∀ u ∈ before, verdict? m u = none) : ∃ m',
    m'.lastMatch = (if before.any Value.isRegexp then .nil else m.lastMatch) ∧
    run before m = .ok false m' := by
  obtain ⟨m', -, hregister, hrun⟩ := h.passes hd hbefore
  refine ⟨m', hregister, ?_⟩
  have hend := hrun []
  rwa [List.append_nil, h.nil] at hend

end Decided

section Test

variable {stands : Str → Bool} (hd : m.Defines Builtin.definitions)

include hd

theorem stringVerdict?_eq (v : Value) : stringVerdict? host n stands m v =
    match m.stringOf v with
    | .ok s => if stands s then some .holds else none
    | .error e => some (.fails (.error e)) := by
  obtain ⟨m', -, heq⟩ := hd.toStr_eq v host n
  unfold stringVerdict?
  rw [heq]
  cases m.stringOf v <;> rfl

theorem test_of_some {w : Verdict} (hv : stringVerdict? host n stands m v = some w)
    (text : String) : ∃ m', w.Leaves text m.lastMatch m'.lastMatch ∧ ∀ rest : Eval Bool,
      (toStr (sendWithin host (n + 1)) v >>= fun s => if stands s then pure true else rest) m =
        settle w.answer m' := by
  obtain ⟨m', hinterns, heq⟩ := hd.toStr_eq v host n
  rw [stringVerdict?_eq hd] at hv
  cases hs : m.stringOf v with
  | ok s =>
    simp only [hs, Option.ite_none_right_eq_some, Option.some.injEq] at hv
    obtain ⟨hstands, rfl⟩ := hv
    refine ⟨m', hinterns.register, fun rest => ?_⟩
    rw [hs] at heq
    refine (bind_of_ok heq).trans ?_
    rw [if_pos hstands]
    rfl
  | error e =>
    simp only [hs, Option.some.injEq] at hv
    subst hv
    refine ⟨m', hinterns.register, fun rest => ?_⟩
    rw [hs] at heq
    exact bind_of_error heq

theorem test_of_none (hv : stringVerdict? host n stands m v = none) :
    ∃ m', m.Interns m' ∧ ∀ rest : Eval Bool,
      (toStr (sendWithin host (n + 1)) v >>= fun s => if stands s then pure true else rest) m =
        rest m' := by
  obtain ⟨m', hinterns, heq⟩ := hd.toStr_eq v host n
  rw [stringVerdict?_eq hd] at hv
  cases hs : m.stringOf v with
  | ok s =>
    simp only [hs, ite_eq_right_iff, reduceCtorEq, imp_false] at hv
    refine ⟨m', hinterns, fun rest => ?_⟩
    rw [hs] at heq
    refine (bind_of_ok heq).trans ?_
    rw [if_neg hv]
  | error e => simp [hs] at hv

theorem stringVerdict?_later (h : m.Later m') (v : Value) : stringVerdict? host n stands m' v =
    stringVerdict? host n stands m v := by
  rw [stringVerdict?_eq hd, stringVerdict?_eq (hd.extends h.keeps), h.stringOf_eq hd]

theorem stringVerdict?_regexp (r : Regexp) : stringVerdict? host n stands m (.regexp r) =
    some (.fails (.error (.noConversion "Regexp" "String"))) :=
  stringVerdict?_eq hd (.regexp r)

end Test

section Regexp

variable {r : Regexp} {groups : List (Option Span)}

theorem lookAtFront_of_some (h : frontGroups? r text = some groups) :
    lookAtFront r text m = .ok true (m.matching ⟨m.heap.next, r, text, groups⟩) := by
  obtain ⟨hgroups, hfront⟩ := Option.filter_eq_some_iff.mp h
  have hbegin : Match.begin? ⟨m.heap.next, r, text, groups⟩ 0 = some (some 0) :=
    of_decide_eq_true hfront
  have hfresh : onHeap (·.fresh) m = .ok m.heap.next { m with heap := m.heap.fresh.2 } := rfl
  unfold lookAtFront
  rw [hgroups]
  refine (bind_of_ok hfresh).trans ?_
  rw [hbegin]
  rfl

theorem lookAtFront_of_none (h : frontGroups? r text = none) :
    ∃ m', m.Later m' ∧ m'.lastMatch = .nil ∧ lookAtFront r text m = .ok false m' := by
  unfold lookAtFront
  cases hgroups : Match.spans? r text 0 with
  | none => exact ⟨m.unmatched, ⟨Frame.register m _, rfl⟩, rfl, rfl⟩
  | some groups =>
    have hfound : Match.Found ⟨m.heap.next, r, text, groups⟩ := ⟨0, hgroups⟩
    obtain ⟨i, hbegin⟩ := Option.isSome_iff_exists.mp (hfound.begin?_isSome 0)
    have hi : i ≠ some 0 := by
      rintro rfl
      have hfront : frontGroups? r text = some groups :=
        Option.filter_eq_some_iff.mpr ⟨hgroups, decide_eq_true hbegin⟩
      rw [h] at hfront
      cases hfront
    have hfresh : onHeap (·.fresh) m = .ok m.heap.next { m with heap := m.heap.fresh.2 } := rfl
    refine ⟨{ m with heap := m.heap.fresh.2, lastMatch := .nil }, ⟨?_, rfl⟩, rfl, ?_⟩
    · exact Frame.trans (Frame.heap m m.heap.fresh.2)
        (Frame.register { m with heap := m.heap.fresh.2 } _)
    · refine (bind_of_ok hfresh).trans ?_
      rw [hbegin]
      exact congrFun (if_neg hi) _

end Regexp

theorem frontVerdict?_of_ne (hv : ∀ r, v ≠ .regexp r) : frontVerdict? host n text m v =
    stringVerdict? host n (fun s => s.chars.isPrefixOf text.toList) m v := by
  cases v with
  | regexp r => exact absurd rfl (hv r)
  | _ => rfl

theorem anyAtFront_of_ne (hv : ∀ r, v ≠ .regexp r) (send : Sender) (text : String)
    (rest : List Value) : anyAtFront send text (v :: rest) = toStr send v >>= fun s =>
      if s.chars.isPrefixOf text.toList then pure true else anyAtFront send text rest := by
  cases v with
  | regexp r => exact absurd rfl (hv r)
  | _ => rfl

/-- Any regexp that does not stand at the front clears the register, wherever else it occurs. -/
theorem decides_anyAtFront (host : Host) (n : ℕ) (text : String) :
    Decides text (anyAtFront (sendWithin host (n + 1)) text) (frontVerdict? host n text) where
  nil := rfl
  stop {m v w} hd hv := by
    by_cases hregexp : ∃ r, v = .regexp r
    · obtain ⟨r, rfl⟩ := hregexp
      obtain ⟨groups, hgroups, rfl⟩ := Option.map_eq_some_iff.mp hv
      refine ⟨m.matching ⟨m.heap.next, r, text, groups⟩, ⟨m.heap.next, rfl⟩, fun rest => ?_⟩
      exact bind_of_ok (lookAtFront_of_some hgroups)
    · rw [not_exists] at hregexp
      rw [frontVerdict?_of_ne hregexp] at hv
      obtain ⟨m', hleaves, hrun⟩ := test_of_some hd hv text
      refine ⟨m', hleaves, fun rest => ?_⟩
      rw [anyAtFront_of_ne hregexp]
      exact hrun _
  pass {m v} hd hv := by
    by_cases hregexp : ∃ r, v = .regexp r
    · obtain ⟨r, rfl⟩ := hregexp
      obtain ⟨m', hlater, hregister, hlook⟩ :=
        lookAtFront_of_none (m := m) (Option.map_eq_none_iff.mp hv)
      exact ⟨m', hlater, hregister, fun rest => bind_of_ok hlook⟩
    · rw [not_exists] at hregexp
      rw [frontVerdict?_of_ne hregexp] at hv
      obtain ⟨m', hinterns, hrun⟩ := test_of_none hd hv
      refine ⟨m', hinterns.later, ?_, fun rest => ?_⟩
      · rw [hinterns.register, if_neg]
        cases v <;> simp_all [Value.isRegexp]
      · rw [anyAtFront_of_ne hregexp]
        exact hrun _
  stable {m m'} hd h := by
    funext v
    by_cases hregexp : ∃ r, v = .regexp r
    · obtain ⟨r, rfl⟩ := hregexp
      rfl
    · rw [not_exists] at hregexp
      rw [frontVerdict?_of_ne hregexp, frontVerdict?_of_ne hregexp, stringVerdict?_later hd h]

theorem decides_anyAtEnd (host : Host) (n : ℕ) (text : String) :
    Decides text (anyAtEnd (sendWithin host (n + 1)) text) (endVerdict? host n text) where
  nil := rfl
  stop hd hv := by
    obtain ⟨m', hleaves, hrun⟩ := test_of_some hd hv text
    exact ⟨m', hleaves, fun rest => hrun _⟩
  pass {m v} hd hv := by
    obtain ⟨m', hinterns, hrun⟩ := test_of_none hd hv
    refine ⟨m', hinterns.later, ?_, fun rest => hrun _⟩
    cases v with
    | regexp r =>
      rw [endVerdict?, stringVerdict?_regexp hd] at hv
      cases hv
    | _ => exact hinterns.register
  stable hd h := funext fun v => stringVerdict?_later hd h v

end StringMethod

namespace Machine

open StringMethod

/-- A message that tests patterns, by the verdicts that they have beforehand. The first verdict
settles the answer, the machine and the register, whatever follows; a regexp that was passed has
cleared the register. -/
structure Tests (host : Host) (n : ℕ) (m : Machine) (t : Str) (name : String)
    (verdict? : Value → Option Verdict) : Prop where
  decided : ∀ before v w, (∀ u ∈ before, verdict? u = none) → verdict? v = some w →
    ∃ m', w.Leaves t.text (if before.any Value.isRegexp then .nil else m.lastMatch) m'.lastMatch ∧
      ∀ rest keywords, reply host (n + 1) (.string t) name ⟨before ++ v :: rest, keywords⟩ m =
        settle (w.answer.map .bool) m'
  undecided : ∀ patterns, (∀ u ∈ patterns, verdict? u = none) →
    ∃ m', m'.lastMatch = (if patterns.any Value.isRegexp then .nil else m.lastMatch) ∧
      ∀ keywords, reply host (n + 1) (.string t) name ⟨patterns, keywords⟩ m = .ok (.bool false) m'

/-- The two messages that test patterns at either end of a text. At its end regexps are refused. -/
structure AffixTests (host : Host) (n : ℕ) (m : Machine) (t : Str) : Prop where
  front : Tests host n m t "start_with?" (frontVerdict? host n t.text m)
  back : Tests host n m t "end_with?" (endVerdict? host n t.text m)
  back_regexp : ∀ r, endVerdict? host n t.text m (.regexp r) =
    some (.fails (.error (.noConversion "Regexp" "String")))
  back_register : ∀ args, (after (reply host (n + 1) (.string t) "end_with?" args) m).lastMatch =
    m.lastMatch

section Sent

variable (hd : m.Defines Builtin.definitions)

include hd

theorem Defines.tests {run : List Value → Eval Bool} {verdict? : Machine → Value → Option Verdict}
    {name : String} (h : Decides t.text run verdict?)
    (hreply : ∀ args, reply host (n + 1) (.string t) name args m =
      (run args.items >>= fun b => pure (Value.bool b)) m.countHit.countHit) :
    Tests host n m t name (verdict? m) := by
  have hlater : m.Later m.countHit.countHit :=
    (m.interns_countHit.trans m.countHit.interns_countHit).later
  have hd' := hd.extends hlater.keeps
  constructor
  · intro before v w hbefore hv
    rw [← h.stable hd hlater] at hbefore hv
    obtain ⟨m', hleaves, hrun⟩ := h.decided hd' hbefore hv
    refine ⟨m', hleaves, fun rest keywords => ?_⟩
    rw [hreply]
    cases w with
    | fails e => exact bind_of_error (hrun rest)
    | _ => exact bind_of_ok (hrun rest)
  · intro patterns hpatterns
    rw [← h.stable hd hlater] at hpatterns
    obtain ⟨m', hregister, hrun⟩ := h.undecided hd' hpatterns
    refine ⟨m', hregister, fun keywords => ?_⟩
    rw [hreply]
    exact bind_of_ok hrun

theorem Defines.reply_start_with_eq (t : Str) (args : Args) :
    reply host n (.string t) "start_with?" args m =
    (anyAtFront (sendWithin host n) t.text args.items >>=
      fun b => pure (Value.bool b)) m.countHit.countHit := by
  have hfound : lastDefined Builtin.definitions "String" "start_with?" =
      some (.builtin (.string .startsWith)) := by
    decide
  rw [hd.reply_string_eq hfound]
  rfl

theorem Defines.reply_end_with_eq (t : Str) (args : Args) :
    reply host n (.string t) "end_with?" args m =
    (anyAtEnd (sendWithin host n) t.text args.items >>=
      fun b => pure (Value.bool b)) m.countHit.countHit := by
  have hfound : lastDefined Builtin.definitions "String" "end_with?" =
      some (.builtin (.string .endsWith)) := by
    decide
  rw [hd.reply_string_eq hfound]
  rfl

/-- With the built-in methods only, the first pattern that decides settles a test at either end of a
text. -/
theorem Defines.affix_tests (host : Host) (n : ℕ) (t : Str) : AffixTests host n m t where
  front := hd.tests (decides_anyAtFront host n t.text) (hd.reply_start_with_eq t)
  back := hd.tests (decides_anyAtEnd host n t.text) (hd.reply_end_with_eq t)
  back_regexp := stringVerdict?_regexp hd
  back_register args := by
    have hmeets :
        (anyAtEnd (sendWithin host (n + 1)) t.text args.items >>=
          fun b => pure (Value.bool b)).Meets
        (.steady False) fun _ => True :=
      (meets_anyAtEnd (Contract.sends_steady host (n + 1) False) t.text fun _ _ => trivial).bind
        fun _ _ => .pure trivial
    have hregister :=
      (hmeets.step_after (hd.extends m.extends_countHit_countHit)).register.resolve_left id
    unfold after at hregister ⊢
    rwa [hd.reply_end_with_eq]

end Sent

/-- A regexp that matches behind the front is passed, and clears the register; the string behind it
decides, so that the value that is none does no harm. -/
theorem affix_tests_passed : ∃ m', m'.lastMatch = .nil ∧
    reply Host.idle 1 (.string ⟨0, "hello"⟩) "start_with?"
        ⟨[.regexp twoGroups, .string ⟨1, "he"⟩, .bool true], false⟩ (build .standard) =
          .ok (.bool true) m' := by
  have htests := (defines_build .standard).affix_tests Host.idle 0 ⟨0, "hello"⟩
  have hpassed : ∀ u ∈ [Value.regexp twoGroups],
      frontVerdict? Host.idle 0 "hello" (build .standard) u = none := by
    intro u hu
    obtain rfl := List.mem_singleton.mp hu
    have hgroups : frontGroups? twoGroups "hello" = none := by decide
    rw [frontVerdict?, hgroups]
    rfl
  have hstands : frontVerdict? Host.idle 0 "hello" (build .standard) (.string ⟨1, "he"⟩) =
      some .holds := rfl
  obtain ⟨m', hleaves, hreply⟩ := htests.front.decided _ _ _ hpassed hstands
  exact ⟨m', hleaves, hreply [.bool true] false⟩

end Machine

end LateBinding
