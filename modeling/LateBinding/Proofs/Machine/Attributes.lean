import LateBinding.Proofs.Machine.Conversion
import LateBinding.Proofs.Storing
import LateBinding.Proofs.Value.Showing

/-! # Attributes of objects

The fields of an object are what it was made with and what messages wrote later, stored one after
the other. Messages write and read the fields whose names are free of methods and do not end in an
equals sign; no name of a field ever ends in one, so that no field is read in place of a write.
-/

namespace LateBinding

open Eval Entries

variable {m m' : Machine} {host : Host} {n : ℕ} {defs : List Definition} {o : Object}
  {f name cls : String} {v : Value} {args : Args} {stored : List (String × Value)}
  {fields : List (Symbol × Value)} {c s : Symbol}

/-- The name does not end in an equals sign. -/
def Plain (name : String) : Prop := ∀ field, name ≠ field ++ "="

theorem plain_iff : Plain name ↔ name.toList.getLast? ≠ some '=' := by
  constructor
  · intro hname hlast
    obtain ⟨before, hbefore⟩ := List.getLast?_eq_some_iff.mp hlast
    refine hname (String.ofList before) ?_
    rw [← String.toList_inj, String.toList_append, String.toList_ofList, hbefore]
    rfl
  · rintro hlast field rfl
    rw [String.toList_append] at hlast
    exact hlast List.getLast?_concat

instance : Decidable (Plain name) := decidable_of_iff _ plain_iff.symm

/-- A name that is read and written as a field, since no method stands in its way. -/
structure IsAttribute (defs : List Definition) (cls f : String) : Prop where
  nonempty : f ≠ ""
  plain : Plain f
  reader : Machine.Undefined defs cls f
  writer : Machine.Undefined defs cls (f ++ "=")

def readField (e : Symbol × Value) : String × Value := (e.1.name, e.2)

theorem Entries.equates_beq : Equates (fun a b : String => a == b) fun _ => True where
  refl _ := beq_self_eq_true _
  symm _ _ h := by rwa [Bool.beq_comm]
  trans _ _ _ h h' := by
    rw [beq_iff_eq] at h h' ⊢
    exact h.trans h'

/-- Pairs come to the same under other names for their keys, as long as these are told apart
alike. -/
theorem Entries.map_gather {κ κ' ν : Type} {same : κ → κ → Bool} {same' : κ' → κ' → Bool}
    {g : κ → κ'} {pairs : List (κ × ν)}
    (hg : ∀ a ∈ pairs.map Prod.fst, ∀ b ∈ pairs.map Prod.fst, same' (g a) (g b) = same a b) :
    (gather same pairs).map (fun e => (g e.1, e.2)) =
      gather same' (pairs.map fun e => (g e.1, e.2)) := by
  induction pairs using List.reverseRecOn with
  | nil => rfl
  | append_singleton pairs d ih =>
    rw [List.map_append, List.map_singleton] at hg
    have hrest := ih fun a ha b hb => hg a (List.mem_append_left _ ha) b (List.mem_append_left _ hb)
    rw [List.map_append, List.map_singleton, gather_concat, gather_concat, ← hrest]
    refine map_put fun e he => hg d.1 (by simp) e.1 (List.mem_append_left _ ?_)
    exact mem_keys_gather (List.mem_map_of_mem he)

namespace Machine

/-- The object holds what these pairs come to. -/
structure Carries (m : Machine) (o : Object) (stored : List (String × Value)) : Prop where
  knows : m.Knows (.object o)
  held : o.ref < m.heap.objects.size
  plain : ∀ d ∈ stored, Plain d.1
  fields : (m.heap.fields o).map readField = gather (· == ·) stored

theorem Defines.carries_newObject (hd : m.Defines defs) (hc : c ∈ m.symbols.symbols)
    (hsymbols : ∀ e ∈ fields, e.1 ∈ m.symbols.symbols) (hplain : ∀ e ∈ fields, Plain e.1.name) :
    Carries { m with heap := (m.heap.newObject c fields).2 } (m.heap.newObject c fields).1
      (fields.map readField) := by
  have hfields : (m.heap.newObject c fields).2.fields (m.heap.newObject c fields).1 =
      gather (fun a b : Symbol => b.same a) fields := by
    simp [Heap.newObject, Heap.fields, gather]
  have hkeys : ∀ a ∈ fields.map Prod.fst, a ∈ m.symbols.symbols := List.forall_mem_map.mpr hsymbols
  constructor
  · refine ⟨hc, fun e he => ?_⟩
    rw [hfields] at he
    exact hkeys _ (mem_keys_gather (List.mem_map_of_mem he))
  · simp [Heap.newObject]
  · intro d hd
    obtain ⟨e, he, rfl⟩ := List.mem_map.mp hd
    exact hplain e he
  · rw [hfields]
    refine map_gather (g := Symbol.name) fun a ha b hb => ?_
    rw [Bool.eq_iff_iff, beq_iff_eq, hd.canonical.same_iff (hkeys b hb) (hkeys a ha), eq_comm]

namespace Carries

section Lookup

variable (hc : m.Carries o stored)

include hc

theorem fieldNamed?_eq (f : String) : m.heap.fieldNamed? o f = lastValue (· == ·) stored f := by
  have hfind : get? (f == ·) ((m.heap.fields o).map readField) =
      get? (·.name == f) (m.heap.fields o) :=
    get?_map (g := Symbol.name) fun _ _ => Bool.beq_comm
  rw [← equates_beq.get?_gather (fun _ _ => trivial) trivial, ← hc.fields]
  exact hfind.symm

theorem fieldNamed?_of_not_plain (hname : ¬ Plain name) : m.heap.fieldNamed? o name = none := by
  rw [hc.fieldNamed?_eq, ← Option.not_isSome_iff_eq_none, isSome_lastValue, List.any_eq_true]
  rintro ⟨d, hd, hsame⟩
  rw [beq_iff_eq] at hsame
  exact hname (hsame ▸ hc.plain d hd)

theorem names_eq : (m.heap.fields o).map (·.1.name) = firstKeys (· == ·) (stored.map Prod.fst) := by
  rw [← equates_beq.keys_gather fun _ _ => trivial, ← hc.fields, List.map_map]
  rfl

theorem lastValue_of_mem {e : Symbol × Value} (he : e ∈ m.heap.fields o) :
    lastValue (· == ·) stored e.1.name = some e.2 := by
  have hmem : readField e ∈ gather (· == ·) stored := by
    rw [← hc.fields]
    exact List.mem_map_of_mem he
  exact equates_beq.lastValue_of_mem (fun _ _ => trivial) hmem

theorem values_eq : (m.heap.fields o).map (fun e => some e.2) =
    (firstKeys (· == ·) (stored.map Prod.fst)).map (lastValue (· == ·) stored) := by
  rw [← hc.names_eq, List.map_map]
  exact List.map_congr_left fun e he => (hc.lastValue_of_mem he).symm

theorem map_fields (text : Value → String) : (m.heap.fields o).map (fun e => (e.1.name, text e.2)) =
    (firstKeys (· == ·) (stored.map Prod.fst)).map fun f =>
      (f, ((lastValue (· == ·) stored f).map text).getD "") := by
  rw [← hc.names_eq, List.map_map]
  refine List.map_congr_left fun e he => ?_
  rw [Function.comp_apply, hc.lastValue_of_mem he]
  rfl

theorem of_same (hknows : m'.Knows (.object o))
    (hsame : m'.heap.objects[o.ref]? = m.heap.objects[o.ref]?) : m'.Carries o stored := by
  have hfields : m'.heap.fields o = m.heap.fields o := by rw [Heap.fields, Heap.fields, hsame]
  have hheld : (m.heap.objects[o.ref]?).isSome = true := by simp [hc.held]
  refine ⟨hknows, ?_, hc.plain, hfields ▸ hc.fields⟩
  rw [← hsame] at hheld
  simpa using hheld

theorem interns (hm : m.Interns m') : m'.Carries o stored :=
  hc.of_same (hm.knows hc.knows) (by rw [hm.heap])

theorem storing (hd : m.Defines defs) (hf : Plain f) :
    (m.storing o f v).Carries o (stored ++ [(f, v)]) := by
  obtain ⟨hname, hmem⟩ := hd.symbol_of_intern f
  have hfields : (m.storing o f v).heap.fields o =
      put (·.name == (m.symbols.intern f).1.name) (m.symbols.intern f).1 v (m.heap.fields o) := by
    change ((m.heap.objects.setIfInBounds o.ref _)[o.ref]?).getD [] = _
    rw [Array.getElem?_setIfInBounds_self_of_lt hc.held]
    rfl
  have hext : m.symbols.Extends (m.symbols.intern f).2 := m.symbols.extends_intern f
  refine ⟨⟨hext.mem_symbols hc.knows.1, fun e he => ?_⟩, ?_, fun d hd => ?_, ?_⟩
  · rw [hfields] at he
    rcases mem_keys_put (List.mem_map_of_mem he) with hkey | hkey
    · obtain ⟨e', he', heq⟩ := List.mem_map.mp hkey
      exact heq ▸ hext.mem_symbols (hc.knows.2 e' he')
    · exact hkey ▸ hmem
  · change o.ref < (m.heap.objects.setIfInBounds o.ref _).size
    rw [Array.size_setIfInBounds]
    exact hc.held
  · rcases List.mem_append.mp hd with hd | hd
    · exact hc.plain d hd
    · exact List.mem_singleton.mp hd ▸ hf
  · rw [hfields, hname, gather_concat, ← hc.fields]
    have hput : (put (·.name == f) (m.symbols.intern f).1 v (m.heap.fields o)).map readField =
        put (f == ·) (m.symbols.intern f).1.name v ((m.heap.fields o).map readField) :=
      map_put (g := Symbol.name) fun _ _ => Bool.beq_comm
    rwa [hname] at hput

end Lookup

end Carries

/-- What reading a field with some arguments comes to: the value, unless there are arguments, or no
method. -/
def readOf (stored : List (String × Value)) (cls f : String) (args : Args) :
    Except RunError Value :=
  match lastValue (· == ·) stored f with
  | some v => if args.size = 0 then .ok v else .error (.arity args.size (.exactly 0))
  | none => .error (.noMethod f cls)

/-- Nothing but fields of one object is changed, and symbols are made. -/
structure ChangesFieldsOf (o : Object) (m m' : Machine) : Prop where
  keeps : m.Extends m'
  strings : m'.heap.strings = m.heap.strings
  arrays : m'.heap.arrays = m.heap.arrays
  hashes : m'.heap.hashes = m.heap.hashes
  others : ∀ r, r ≠ o.ref → m'.heap.objects[r]? = m.heap.objects[r]?
  register : m'.lastMatch = m.lastMatch

section Messages

variable (hd : m.Defines defs) (hc : m.Carries o stored) (hf : IsAttribute defs o.cls.name f)

include hc

theorem Carries.fieldNamed?_write : m.heap.fieldNamed? o (f ++ "=") = none :=
  hc.fieldNamed?_of_not_plain fun hplain => hplain f rfl

include hd hf

theorem Defines.reply_write (v : Value) (keywords : Bool) :
    reply host n (.object o) (f ++ "=") ⟨[v], keywords⟩ m =
      .ok v ((m.withSymbols (.object o) (f ++ "=")).storing o f v) :=
  (hd.answers hc.knows).write hf.writer o rfl hc.fieldNamed?_write f hf.nonempty rfl

theorem Defines.reply_write_of_refused (hargs : args.size ≠ 1) :
    reply host n (.object o) (f ++ "=") args m =
      .error (.error (.arity args.size (.exactly 1))) (m.withSymbols (.object o) (f ++ "=")) := by
  have hreply : reply host n (.object o) (f ++ "=") args m = _ :=
    (hd.answers hc.knows).write hf.writer o rfl hc.fieldNamed?_write f hf.nonempty rfl
  obtain ⟨items, keywords⟩ := args
  rcases items with _ | ⟨v, _ | ⟨w, rest⟩⟩
  · exact hreply
  · exact absurd rfl hargs
  · exact hreply

theorem Defines.reply_read (args : Args) :
    reply host n (.object o) f args m =
      ofExcept (readOf stored o.cls.name f args) (m.withSymbols (.object o) f) := by
  have hanswers : Answers host n defs (.object o) f args m := hd.answers hc.knows
  have hfield := hc.fieldNamed?_eq f
  unfold readOf
  cases hlast : lastValue (· == ·) stored f with
  | some v =>
    rw [hlast] at hfield
    rw [hanswers.read hf.reader o rfl v hfield]
    dsimp only
    split <;> rfl
  | none =>
    rw [hlast] at hfield
    refine hanswers.missing hf.reader ?_
    rintro _ ⟨⟩
    exact ⟨hfield, fun field _ => hf.plain field⟩

theorem Defines.respondsToName_attribute :
    respondsToName (.object o) f m = .ok (stored.any fun d => f == d.1)
      (m.withSymbols (.object o) f) := by
  have hresponds : respondsToName (.object o) f m = _ := hd.respondsToName_eq hc.knows
  obtain ⟨hown, hshared⟩ := hf.reader
  rw [hresponds, ← isSome_lastValue (fun a b : String => a == b), ← hc.fieldNamed?_eq f]
  change EStateM.Result.ok (((lastDefined defs o.cls.name f).or _).isSome || _) _ = _
  rw [hown, hshared]
  rfl

end Messages

theorem changes_storing (m : Machine) (o : Object) (f : String) (v : Value) :
    ChangesFieldsOf o m (m.storing o f v) where
  keeps := ⟨rfl, rfl, m.symbols.extends_intern f⟩
  strings := rfl
  arrays := rfl
  hashes := rfl
  others _ hr := Array.getElem?_setIfInBounds_ne hr.symm
  register := rfl

theorem Interns.changes (hm : m.Interns m') {m'' : Machine} (h : ChangesFieldsOf o m' m'') :
    ChangesFieldsOf o m m'' where
  keeps := Frame.trans hm.keeps h.keeps
  strings := h.strings.trans (by rw [hm.heap])
  arrays := h.arrays.trans (by rw [hm.heap])
  hashes := h.hashes.trans (by rw [hm.heap])
  others r hr := (h.others r hr).trans (by rw [hm.heap])
  register := h.register.trans hm.register

/-- An object is made, and messages write and read its fields, whatever arguments they have. In
between the machine goes on in any way that leaves the fields of the object. -/
inductive Accesses (host : Host) (o : Object) : Machine → List (String × Value) → Prop
  | made {m : Machine} {defs : List Definition} {c : Symbol} {fields : List (Symbol × Value)}
    (defines : m.Defines defs) (known : c ∈ m.symbols.symbols)
    (symbols : ∀ e ∈ fields, e.1 ∈ m.symbols.symbols) (plain : ∀ e ∈ fields, Plain e.1.name)
    (new : (m.heap.newObject c fields).1 = o) :
    Accesses host o { m with heap := (m.heap.newObject c fields).2 } (fields.map readField)
  | write {m : Machine} {defs : List Definition} {stored : List (String × Value)} {f : String}
    (before : Accesses host o m stored) (defines : m.Defines defs)
    (free : IsAttribute defs o.cls.name f) (v : Value) (keywords : Bool) (n : ℕ) :
    Accesses host o (after (reply host n (.object o) (f ++ "=") ⟨[v], keywords⟩) m)
      (stored ++ [(f, v)])
  | refused {m : Machine} {defs : List Definition} {stored : List (String × Value)} {f : String}
    {args : Args} (before : Accesses host o m stored) (defines : m.Defines defs)
    (free : IsAttribute defs o.cls.name f) (number : args.size ≠ 1) (n : ℕ) :
    Accesses host o (after (reply host n (.object o) (f ++ "=") args) m) stored
  | read {m : Machine} {defs : List Definition} {stored : List (String × Value)} {f : String}
    (before : Accesses host o m stored) (defines : m.Defines defs)
    (free : IsAttribute defs o.cls.name f) (args : Args) (n : ℕ) :
    Accesses host o (after (reply host n (.object o) f args) m) stored
  | other {m m' : Machine} {stored : List (String × Value)} (before : Accesses host o m stored)
    (knows : m'.Knows (.object o)) (same : m'.heap.objects[o.ref]? = m.heap.objects[o.ref]?) :
    Accesses host o m' stored

theorem after_of_ofExcept {α : Type} {x : Eval α} {a : Except RunError α}
    (h : x m = ofExcept a m') : x.after m = m' := by
  cases a with
  | ok a => exact after_of_ok h
  | error e => exact after_of_error h

theorem Accesses.carries (ha : Accesses host o m stored) : m.Carries o stored := by
  induction ha with
  | made defines known symbols plain new =>
    exact new ▸ defines.carries_newObject known symbols plain
  | @write m _ _ f before defines free v keywords n ih =>
    rw [after_of_ok (defines.reply_write ih free v keywords)]
    have hinterns := interns_withSymbols m (.object o) (f ++ "=")
    exact (ih.interns hinterns).storing (defines.extends hinterns.keeps) free.plain
  | @refused m _ _ f args before defines free number n ih =>
    rw [after_of_error (defines.reply_write_of_refused ih free number)]
    exact ih.interns (interns_withSymbols m (.object o) (f ++ "="))
  | @read m _ _ f before defines free args n ih =>
    rw [after_of_ofExcept (defines.reply_read ih free args)]
    exact ih.interns (interns_withSymbols m (.object o) f)
  | other before knows same ih => exact ih.of_same knows same

/-- What an object answers is told by what was stored in it: its fields are the names that came
first, in their order, each with the value that came last. It is shown as long as nothing inside it
holds itself. -/
structure Attributes (host : Host) (n : ℕ) (defs : List Definition) (m : Machine) (o : Object)
    (stored : List (String × Value)) : Prop where
  names : (m.heap.fields o).map (·.1.name) = firstKeys (· == ·) (stored.map Prod.fst)
  values : (m.heap.fields o).map (fun e => some e.2) =
    (firstKeys (· == ·) (stored.map Prod.fst)).map (lastValue (· == ·) stored)
  write : ∀ f, IsAttribute defs o.cls.name f → ∀ v keywords, ∃ m', ChangesFieldsOf o m m' ∧
    reply host n (.object o) (f ++ "=") ⟨[v], keywords⟩ m = .ok v m'
  read : ∀ f, IsAttribute defs o.cls.name f → ∀ keywords, ∃ m', m.Interns m' ∧
    reply host n (.object o) f ⟨[], keywords⟩ m =
      match lastValue (· == ·) stored f with
      | some v => .ok v m'
      | none => .error (.error (.noMethod f o.cls.name)) m'
  responds : ∀ f, IsAttribute defs o.cls.name f → ∃ m', m.Interns m' ∧
    respondsToName (.object o) f m = .ok (stored.any fun d => f == d.1) m'
  refuses_write : ∀ f, IsAttribute defs o.cls.name f → ∀ args : Args, args.size ≠ 1 →
    ∃ m', m.Interns m' ∧
    reply host n (.object o) (f ++ "=") args m = .error (.error (.arity args.size (.exactly 1))) m'
  refuses_read : ∀ f, IsAttribute defs o.cls.name f → ∀ args : Args, args.size ≠ 0 →
    ∃ m', m.Interns m' ∧
    reply host n (.object o) f args m = .error (.error (if stored.any fun d => f == d.1
      then .arity args.size (.exactly 0) else .noMethod f o.cls.name)) m'
  shown : m.heap.Showable (.object o) → ∃ text : String → String,
    m.heap.inspect? (.object o) = some (Heap.objectText o.cls.name
      ((firstKeys (· == ·) (stored.map Prod.fst)).map fun f => (f, text f))) ∧
    ∀ f ∈ firstKeys (· == ·) (stored.map Prod.fst), ∃ v, lastValue (· == ·) stored f = some v ∧
      m.heap.inspect? v = some (text f)

/-- Whatever is stored in an object, and read from it, in between, it answers as a record of all
that was stored. -/
theorem Accesses.attributes (ha : Accesses host o m stored) (hd : m.Defines defs) (n : ℕ) :
    Attributes host n defs m o stored := by
  have hc := ha.carries
  constructor
  case names => exact hc.names_eq
  case values => exact hc.values_eq
  case write =>
    intro f hf v keywords
    have hinterns := interns_withSymbols m (.object o) (f ++ "=")
    exact ⟨_, hinterns.changes (changes_storing _ o f v), hd.reply_write hc hf v keywords⟩
  case read =>
    intro f hf keywords
    refine ⟨_, interns_withSymbols m (.object o) f, (hd.reply_read hc hf ⟨[], keywords⟩).trans ?_⟩
    unfold readOf
    cases lastValue (· == ·) stored f <;> rfl
  case responds =>
    intro f hf
    exact ⟨_, interns_withSymbols m (.object o) f, hd.respondsToName_attribute hc hf⟩
  case refuses_write =>
    intro f hf args hargs
    exact ⟨_, interns_withSymbols m (.object o) (f ++ "="), hd.reply_write_of_refused hc hf hargs⟩
  case refuses_read =>
    intro f hf args hargs
    refine ⟨_, interns_withSymbols m (.object o) f, (hd.reply_read hc hf args).trans ?_⟩
    rw [← isSome_lastValue (fun a b : String => a == b)]
    unfold readOf
    cases lastValue (· == ·) stored f with
    | some v =>
      dsimp only
      rw [if_neg hargs]
      rfl
    | none => rfl
  case shown =>
    intro hshowable
    refine ⟨fun f => ((lastValue (· == ·) stored f).map m.heap.inspect).getD "", ?_, fun f hf => ?_⟩
    · rw [hshowable.inspect?_eq_some, hshowable.inspect_object, hc.map_fields]
    · rw [← hc.names_eq] at hf
      obtain ⟨e, he, rfl⟩ := List.mem_map.mp hf
      have hpart : m.heap.Showable e.2 := hshowable.part (List.mem_map_of_mem he)
      refine ⟨e.2, hc.lastValue_of_mem he, ?_⟩
      dsimp only
      rw [hc.lastValue_of_mem he]
      exact hpart.inspect?_eq_some

theorem Accesses.exists_write (ha : Accesses host o m stored) (hd : m.Defines defs) {f : String}
    (hf : IsAttribute defs o.cls.name f) (v : Value) :
    ∃ m', Accesses host o m' (stored ++ [(f, v)]) ∧ m'.Defines defs := by
  refine ⟨_, ha.write hd hf v false 0, ?_⟩
  rw [after_of_ok (hd.reply_write ha.carries hf v false)]
  exact hd.extends ((interns_withSymbols m (.object o) (f ++ "=")).changes
    (changes_storing _ o f v)).keeps

theorem isAttribute_point : ∀ f ∈ ["x", "y", "z"], IsAttribute Builtin.definitions "Point" f := by
  intro f hf
  simp only [List.mem_cons, List.not_mem_nil, or_false] at hf
  rcases hf with rfl | rfl | rfl <;>
    refine ⟨by decide, by decide, ⟨?_, ?_⟩, ⟨?_, ?_⟩⟩ <;> decide

theorem exists_point : ∃ m o, Accesses .idle o m [] ∧ m.Defines Builtin.definitions ∧
    o.cls.name = "Point" := by
  obtain ⟨m₀, hd⟩ := exists_defines
  obtain ⟨hname, hmem⟩ := hd.symbol_of_intern "Point"
  have hd₁ := hd.extends (keeps_intern "Point" m₀)
  have hmade : Accesses .idle _ _ ([].map readField) := .made hd₁ hmem (by simp) (by simp) rfl
  exact ⟨_, _, hmade, hd₁.extends (Frame.heap (R := Extends) _ _), hname⟩

/-- A point with two coordinates, of which the first is written twice. -/
theorem attributes_point :
    ∃ m o, Accesses .idle o m [("x", .integer 1), ("y", .integer 2), ("x", .integer 3)] ∧
    m.Defines Builtin.definitions ∧ o.cls.name = "Point" ∧
    (∃ m', m.Interns m' ∧ reply .idle 0 (.object o) "x" .empty m = .ok (.integer 3) m') ∧
    (∃ m', m.Interns m' ∧ reply .idle 0 (.object o) "z" .empty m =
      .error (.error (.noMethod "z" "Point")) m') ∧
    (∃ m', m.Interns m' ∧ reply .idle 0 (.object o) "x" (.positional [.nil]) m =
      .error (.error (.arity 1 (.exactly 0))) m') ∧
    m.heap.inspect? (.object o) = some "#<Point x=3, y=2>" := by
  obtain ⟨m, o, ha, hd, hcls⟩ := exists_point
  have hfree : ∀ f ∈ ["x", "y", "z"], IsAttribute Builtin.definitions o.cls.name f :=
    hcls ▸ isAttribute_point
  obtain ⟨m₁, ha₁, hd₁⟩ := ha.exists_write hd (hfree "x" (by decide)) (.integer 1)
  obtain ⟨m₂, ha₂, hd₂⟩ := ha₁.exists_write hd₁ (hfree "y" (by decide)) (.integer 2)
  obtain ⟨m₃, ha₃, hd₃⟩ := ha₂.exists_write hd₂ (hfree "x" (by decide)) (.integer 3)
  have hattributes := ha₃.attributes hd₃ 0
  refine ⟨m₃, o, ha₃, hd₃, hcls, ?_, ?_, ?_, ?_⟩
  · exact hattributes.read "x" (hfree "x" (by decide)) false
  · exact hcls ▸ hattributes.read "z" (hfree "z" (by decide)) false
  · exact hattributes.refuses_read "x" (hfree "x" (by decide)) (.positional [.nil]) (by decide)
  · have hvalues : (m₃.heap.fields o).map Prod.snd = [.integer 3, .integer 2] := by
      refine List.map_injective_iff.mpr (Option.some_injective _) ?_
      rw [List.map_map]
      exact hattributes.values.trans (by decide)
    have hshowable : m₃.heap.Showable (.object o) := by
      refine .intro ?_ fun p hp => ?_
      · rintro _ ⟨⟩
        simpa [Heap.places] using ha₃.carries.held
      · have hmem : p ∈ (m₃.heap.fields o).map Prod.snd := hp
        simp only [hvalues, List.mem_cons, List.not_mem_nil, or_false] at hmem
        rcases hmem with rfl | rfl <;> exact .of_flat rfl
    have hinteger (i : Int64) : m₃.heap.inspect? (.integer i) = some (toString i.toInt) :=
      Heap.inspect?_eq _ _
    have hnames : firstKeys (fun a b : String => a == b) ["x", "y", "x"] = ["x", "y"] := by decide
    obtain ⟨text, hinspect, htext⟩ := hattributes.shown hshowable
    change m₃.heap.inspect? _ =
      some (Heap.objectText _ ((firstKeys _ ["x", "y", "x"]).map _)) at hinspect
    have htextOf {f : String} {i : Int64} (hf : f ∈ ["x", "y"])
        (hlast : lastValue (fun a b : String => a == b)
          [("x", .integer 1), ("y", .integer 2), ("x", .integer 3)] f = some (Value.integer i)) :
        text f = toString i.toInt := by
      obtain ⟨v, hv, hshown⟩ := htext f hf
      obtain rfl : .integer i = v := Option.some.inj (hlast.symm.trans hv)
      exact Option.some.inj (hshown.symm.trans (hinteger i))
    have hx : text "x" = toString (3 : Int64).toInt := htextOf (by decide) rfl
    have hy : text "y" = toString (2 : Int64).toInt := htextOf (by decide) rfl
    rw [hinspect, hcls, hnames, List.map_cons, List.map_cons, hx, hy, List.map_nil]
    decide

/-- A field that was never written is read with an argument: no method, and nothing to count
arguments for. Once the point is written in this field, it is not shown any more. -/
theorem reply_absent_point : ∃ m o, Accesses .idle o m [] ∧ m.Defines Builtin.definitions ∧
    o.cls.name = "Point" ∧
    IsAttribute Builtin.definitions "Point" "y" ∧
    reply .idle 0 (.object o) "y" (.positional [.integer 1]) m =
      .error (.error (.noMethod "y" "Point")) (m.withSymbols (.object o) "y") ∧
    (RunError.noMethod "y" "Point").kind ≠ .arity ∧
    ∃ m', Accesses .idle o m' [("y", .object o)] ∧ m'.Defines Builtin.definitions ∧
      ∃ m'', reply .idle 0 (.object o) "inspect" .empty m' = .error .endless m'' := by
  obtain ⟨m, o, ha, hd, hcls⟩ := exists_point
  have hfree := hcls ▸ isAttribute_point "y" (by decide)
  refine ⟨m, o, ha, hd, hcls, hcls ▸ hfree, ?_, by decide, ?_⟩
  · rw [hd.reply_read ha.carries hfree, hcls]
    rfl
  · obtain ⟨m₁, hwritten, hd₁⟩ := ha.exists_write hd hfree (.object o)
    have hvalues : (m₁.heap.fields o).map (fun e => some e.2) = [some (.object o)] :=
      (hwritten.attributes hd₁ 0).values
    have hitself : m₁.heap.ShownIn (.object o) (.object o) := by
      have hmem : some (Value.object o) ∈ (m₁.heap.fields o).map fun e => some e.2 := by
        simp [hvalues]
      obtain ⟨e, he, hvalue⟩ := List.mem_map.mp hmem
      exact List.mem_map.mpr ⟨e, he, Option.some.inj hvalue⟩
    refine ⟨m₁, hwritten, hd₁, m₁.withSymbols (.object o) "inspect", ?_⟩
    have hfind : (lastDefined Builtin.definitions "Point" "inspect").or
        (lastDefined Builtin.definitions Builtin.objectClass "inspect") =
          some (.builtin (.object .inspect)) := by
      decide
    rw [hd₁.reply_eq hwritten.carries.knows, show (Value.object o).className =
      "Point" from hcls, hfind]
    change (orEndless (m₁.heap.inspect? (.object o)) >>= newString)
      (m₁.withSymbols (.object o) "inspect") = _
    rw [Heap.inspect?_eq_none (.single hitself)]
    rfl

end Machine

end LateBinding
