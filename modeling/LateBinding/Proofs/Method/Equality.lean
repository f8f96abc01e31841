import LateBinding.Proofs.Machine.Message
import LateBinding.Proofs.Value.Equality

/-! # The message for equality

Classes whose values are equal by what they hold have a method of their own for the message, and all
other receivers go by identity. For most of these identity is equality. Regexps and matches are
equal by what they hold but have no such method, so the message tells apart two regexps that arrays
of them hold to be equal.
-/

namespace LateBinding

open Eval

variable {m m' : Machine} {host : Host} {send : Sender} {n : ℕ} {a b : Value} {h : Heap}
  {cls : String}

namespace Heap

def answersEqual? (h : Heap) (a b : Value) : Option Bool :=
  match a with
  | .regexp _ | .matched _ => some (h.same a b)
  | _ => h.eql? none a b

theorem answersEqual?_eq_same (ha : a.isContainer = false) (hs : ∀ s, a ≠ .string s) :
    h.answersEqual? a b = some (h.same a b) := by
  have hflat : h.eql? none a b = some (h.eql a b) := by rw [eql_eq_decide ha, eql?_flat ha]
  cases a with
  | string s => exact absurd rfl (hs s)
  | array r => cases ha
  | hash r => cases ha
  | regexp r => rfl
  | matched k => rfl
  | _ => cases b <;> exact hflat

theorem answersEqual?_eq_eql? (hr : ∀ r, a ≠ .regexp r) (hk : ∀ k, a ≠ .matched k) :
    h.answersEqual? a b = h.eql? none a b := by
  cases a with
  | regexp r => exact absurd rfl (hr r)
  | matched k => exact absurd rfl (hk k)
  | _ => rfl

theorem eql?_singletons {r q : ℕ} (hr : h.array r = [a]) (hq : h.array q = [b]) :
    h.eql? none (.array r) (.array q) = h.eql? none a b := by
  rw [eql?_eq, eqlStep, hr, hq]
  split
  · next heq =>
    have heq' : [a] = [b] := by rw [← hr, ← hq, heq]
    rw [List.singleton_inj.mp heq', eql?_self]
  · simp only [List.length_singleton, ↓reduceIte, List.zip_cons_cons, all?]
    cases h.eql? none a b with
    | none => rfl
    | some answer => cases answer <;> rfl

end Heap

def ownEquality : List String := ["Integer", "Float", "String", "Symbol", "Array", "Hash"]

theorem found_equal (h : cls ∉ ownEquality) :
    (lastDefined Builtin.definitions cls "==").or
      (lastDefined Builtin.definitions Builtin.objectClass "==") =
      some (.builtin (.object .equal)) :=
  found_shared ownEquality (by decide) (by decide) h

theorem found_notEqual (cls : String) :
    (lastDefined Builtin.definitions cls "!=").or
      (lastDefined Builtin.definitions Builtin.objectClass "!=") =
      some (.builtin (.object .notEqual)) :=
  found_shared [] (by decide) (by decide) List.not_mem_nil

def Machine.verdict (m : Machine) : Option Bool → EStateM.Result Fault Machine Value
  | some equal => .ok (.bool equal) m
  | none => .error .endless m

theorem Machine.verdict_eq (m : Machine) (answer : Option Bool) :
    (do return .bool (← orEndless answer) : Eval Value) m = m.verdict answer := by
  cases answer <;> rfl

theorem StringMethod.run_equal (send : Sender) (s : Str) (b : Value) (keywords : Bool)
    (m : Machine) :
    StringMethod.equal.run send (.string s) ⟨[b], keywords⟩ m =
      m.verdict (m.heap.eql? none (.string s) b) := by
  rw [Heap.eql?_flat rfl]
  cases b with
  | string t =>
    change EStateM.Result.ok (Value.bool (t.text == s.text)) m = _
    rw [Bool.beq_comm]
    simp [Value.content, Machine.verdict, beq_eq_decide]
  | _ => rfl

theorem SymbolMethod.run_equal (send : Sender) (s : Symbol) (b : Value) (keywords : Bool)
    (m : Machine) :
    SymbolMethod.equal.run send (.symbol s) ⟨[b], keywords⟩ m =
      m.verdict (m.heap.eql? none (.symbol s) b) := by
  rw [Heap.eql?_flat rfl]
  cases b with
  | symbol t =>
    change EStateM.Result.ok (Value.bool (t.id == s.id)) m = _
    rw [Bool.beq_comm]
    simp [Value.content, Value.identity, Machine.verdict, beq_eq_decide]
  | _ => rfl

/-- Neither a number, nor an object whose class is named like one that compares in its own way. -/
def IsCompared : Value → Prop
  | .integer _ | .float _ => False
  | .object o => o.cls.name ∉ ownEquality
  | _ => True

namespace Machine

variable {keywords : Bool}

section Reply

variable (hd : m.Defines Builtin.definitions) (hknows : m.Knows a)

include hd hknows

theorem Defines.reply_own {own : Builtin}
    (hfound : lastDefined Builtin.definitions a.className "==" = some (.builtin own))
    (hrun : ∀ send m', own.run host send a ⟨[b], keywords⟩ m' =
      m'.verdict (m'.heap.eql? none a b)) :
    reply host n a "==" ⟨[b], keywords⟩ m =
      (m.withSymbols a "==").verdict (m.heap.eql? none a b) := by
  rw [hd.reply_eq hknows, hfound, ← m.heap_withSymbols a "=="]
  exact hrun _ _

theorem Defines.reply_shared (hcls : a.className ∉ ownEquality) :
    reply host n a "==" ⟨[b], keywords⟩ m =
      .ok (.bool (m.heap.same a b)) (m.withSymbols a "==") := by
  rw [hd.reply_eq hknows, found_equal hcls, ← m.heap_withSymbols a "=="]
  rfl

theorem Defines.reply_equal (ha : IsCompared a) : reply host n a "==" ⟨[b], keywords⟩ m =
    (m.withSymbols a "==").verdict (m.heap.answersEqual? a b) := by
  have hshared : a.isContainer = false → (∀ s, a ≠ .string s) → a.className ∉ ownEquality →
      reply host n a "==" ⟨[b], keywords⟩ m =
        (m.withSymbols a "==").verdict (m.heap.answersEqual? a b) := by
    intro hflat hs hcls
    rw [hd.reply_shared hknows hcls, Heap.answersEqual?_eq_same hflat hs]
    rfl
  cases a with
  | integer i => cases ha
  | float d => cases ha
  | string s =>
    have hfound : lastDefined Builtin.definitions "String" "==" =
        some (.builtin (.string .equal)) := by
      decide
    exact hd.reply_own hknows hfound fun send m' => StringMethod.run_equal send s b keywords m'
  | symbol s =>
    have hfound : lastDefined Builtin.definitions "Symbol" "==" =
        some (.builtin (.symbol .equal)) := by
      decide
    exact hd.reply_own hknows hfound fun send m' => SymbolMethod.run_equal send s b keywords m'
  | array r =>
    have hfound : lastDefined Builtin.definitions "Array" "==" =
        some (.builtin (.array .equal)) := by
      decide
    exact hd.reply_own hknows hfound fun _ m' => m'.verdict_eq _
  | hash r =>
    have hfound : lastDefined Builtin.definitions "Hash" "==" = some (.builtin (.hash .equal)) := by
      decide
    exact hd.reply_own hknows hfound fun _ m' => m'.verdict_eq _
  | bool t => cases t <;> exact hshared rfl (by simp) (by decide)
  | object o => exact hshared rfl (by simp) ha
  | _ => exact hshared rfl (by simp) (by simp [Value.className, ownEquality])

theorem Defines.reply_notEqual (ha : IsCompared a) : ∃ m', m.Extends m' ∧ m'.heap = m.heap ∧
    reply host (n + 1) a "!=" ⟨[b], keywords⟩ m =
      m'.verdict ((m.heap.answersEqual? a b).map (!·)) := by
  have hext := m.extends_withSymbols a "!="
  have hheap := m.heap_withSymbols a "!="
  have hd' := hd.extends hext
  have hknows' := hknows.of_extends hext hheap
  have hequal : Sender.byName (sendWithin host (n + 1)) a "==" ⟨[b], keywords⟩
      (m.withSymbols a "!=") = _ :=
    hd'.reply_equal hknows' ha
  rw [hheap] at hequal
  refine ⟨(m.withSymbols a "!=").withSymbols a "==", ?_, ?_, ?_⟩
  · exact Frame.trans hext (extends_withSymbols _ a "==")
  · rw [heap_withSymbols, hheap]
  · rw [hd.reply_eq hknows, found_notEqual]
    change (Sender.byName (sendWithin host (n + 1)) a "==" ⟨[b], keywords⟩ >>= fun v : Value =>
      pure (Value.bool !v.isTruthy)) _ = _
    cases hanswer : m.heap.answersEqual? a b with
    | none =>
      rw [hanswer] at hequal
      exact bind_of_error hequal
    | some equal =>
      rw [hanswer] at hequal
      rw [bind_of_ok hequal]
      cases equal <;> rfl

end Reply

/-- What the messages that compare two values answer, on every host, and how that goes with
equality. -/
structure Compares (a b : Value) (m : Machine) : Prop where
  equal : ∀ host n keywords, reply host n a "==" ⟨[b], keywords⟩ m =
    (m.withSymbols a "==").verdict (m.heap.answersEqual? a b)
  unequal : ∀ host n keywords, ∃ m', m.Extends m' ∧ m'.heap = m.heap ∧
    reply host (n + 1) a "!=" ⟨[b], keywords⟩ m = m'.verdict ((m.heap.answersEqual? a b).map (!·))
  /-- Values without cycles are compared in the end. -/
  ends : m.heap.Nested a → m.heap.Nested b → (m.heap.answersEqual? a b).isSome = true
  /-- The answer is equality of the values, unless a regexp or a match is asked. -/
  agrees : (∀ r, a ≠ .regexp r) → (∀ k, a ≠ .matched k) →
    m.heap.answersEqual? a b = m.heap.eql? none a b
  /-- Arrays of one value each are compared by equality of the values, whatever these are. -/
  singletons : ∀ r q, m.heap.array r = [a] → m.heap.array q = [b] →
    ∀ host n keywords, reply host n (.array r) "==" ⟨[.array q], keywords⟩ m =
      (m.withSymbols (.array r) "==").verdict (m.heap.eql? none a b)

/-- With the built-in methods only, comparing two values by message goes by their equality, except
that regexps and matches go by identity. -/
theorem compares (hd : m.Defines Builtin.definitions) (hknows : m.Knows a) (ha : IsCompared a) :
    Compares a b m where
  equal _ _ _ := hd.reply_equal hknows ha
  unequal _ _ _ := hd.reply_notEqual hknows ha
  ends hna hnb := by
    have hends : (m.heap.eql? none a b).isSome = true := by rw [hna.eql?_eq_some hnb]; rfl
    cases a <;> first | rfl | exact hends
  agrees := Heap.answersEqual?_eq_eql?
  singletons r q hr hq host n keywords := by
    have hknows : m.Knows (.array r) := trivial
    have ha : IsCompared (.array r) := trivial
    rw [hd.reply_equal hknows ha, Heap.answersEqual?_eq_eql? (by simp) (by simp),
      Heap.eql?_singletons hr hq]

def lookalikes : Heap :=
  { Heap.empty with arrays := #[[.regexp ⟨0, "a"⟩], [.regexp ⟨1, "a"⟩]], next := 2 }

theorem exists_defines_lookalikes : ∃ m, m = { build .standard with heap := lookalikes } ∧
    m.heap = lookalikes ∧ m.Defines Builtin.definitions :=
  ⟨_, rfl, rfl, (defines_build .standard).extends (Frame.heap (R := Extends) _ _)⟩

theorem compares_arrays :
    ∃ m, m = { build .standard with heap := lookalikes } ∧ m.Defines Builtin.definitions ∧
      m.Knows (.array 0) ∧
      IsCompared (.array 0) ∧ Compares (.array 0) (.array 1) m ∧
      reply Host.idle 0 (.array 0) "==" ⟨[.array 1], false⟩ m =
        .ok (.bool true) (m.withSymbols (.array 0) "==") := by
  obtain ⟨m, hm, hheap, hd⟩ := exists_defines_lookalikes
  have hknows : m.Knows (.array 0) := trivial
  have ha : IsCompared (.array 0) := trivial
  have hcompares : Compares (.array 0) (.array 1) m := compares hd hknows ha
  refine ⟨m, hm, hd, hknows, ha, hcompares, ?_⟩
  rw [hcompares.equal, hheap]
  have hequal : lookalikes.answersEqual? (.array 0) (.array 1) = some true := by decide
  rw [hequal]
  rfl

/-- The message tells two regexps apart that are equal, as arrays of them are. -/
theorem reply_equal_lookalikes :
    ∃ m, m = { build .standard with heap := lookalikes } ∧
      m.heap.eql (.regexp ⟨0, "a"⟩) (.regexp ⟨1, "a"⟩) = true ∧
      reply Host.idle 0 (.regexp ⟨0, "a"⟩) "==" ⟨[.regexp ⟨1, "a"⟩], false⟩ m =
        .ok (.bool false) (m.withSymbols (.regexp ⟨0, "a"⟩) "==") ∧
      reply Host.idle 0 (.array 0) "==" ⟨[.array 1], false⟩ m =
        .ok (.bool true) (m.withSymbols (.array 0) "==") := by
  obtain ⟨m, hm, hheap, hd⟩ := exists_defines_lookalikes
  have hregexps : lookalikes.answersEqual? (.regexp ⟨0, "a"⟩) (.regexp ⟨1, "a"⟩) = some false := by
    decide
  have harrays : lookalikes.answersEqual? (.array 0) (.array 1) = some true := by decide
  refine ⟨m, hm, ?_, ?_, ?_⟩
  · rw [hheap]
    decide
  · have hknows : m.Knows (.regexp ⟨0, "a"⟩) := trivial
    have ha : IsCompared (.regexp ⟨0, "a"⟩) := trivial
    rw [hd.reply_equal hknows ha, hheap, hregexps]
    rfl
  · have hknows : m.Knows (.array 0) := trivial
    have ha : IsCompared (.array 0) := trivial
    rw [hd.reply_equal hknows ha, hheap, harrays]
    rfl

end Machine

end LateBinding
