import LateBinding.Proofs.Machine.Conversion
import LateBinding.Proofs.Machine.Effect
import LateBinding.Proofs.Value.Growth

/-! # The messages for display

With the built-in methods only, the message for the literal form is answered with the literal form
of the receiver, and the one for the display form with that: classes that have methods of their own
for them show what all others do. As the texts do not change while nothing is written, a container
is shown with the texts that its parts answer.
-/

namespace LateBinding

open Eval

variable {m m' : Machine} {host : Host} {n : ℕ} {v : Value} {cls message text text' : String}
  {keywords : Bool}

/-- An object whose class is named like that of values of another kind. -/
def Value.Impersonates : Value → Prop
  | .object o => ∃ w : Value, (∀ o, w ≠ .object o) ∧ w.className = o.cls.name
  | _ => False

namespace Builtin

def inspector : Value → Builtin
  | .integer _ => .integer .toS
  | .float _ => .float .toS
  | .symbol _ => .symbol .inspect
  | _ => .object .inspect

def displayer : Value → Builtin
  | .integer _ => .integer .toS
  | .float _ => .float .toS
  | .string _ => .string .toS
  | .symbol _ => .symbol .toS
  | .matched _ => .matched .toS
  | _ => .object .toS

def ownDisplay : List String := ["Integer", "Float", "String", "Symbol", "MatchData"]

theorem not_mem_ownDisplay {o : Object} (h : ¬ (Value.object o).Impersonates) :
    o.cls.name ∉ ownDisplay := by
  have hne : ∀ w : Value, (∀ o, w ≠ .object o) → o.cls.name ≠ w.className := fun w hw heq =>
    h ⟨w, hw, heq.symm⟩
  simp only [ownDisplay, List.mem_cons, List.not_mem_nil, or_false, not_or]
  exact ⟨hne (.integer 0) (by simp), hne (.float ⟨0⟩) (by simp), hne (.string ⟨0, ""⟩) (by simp),
    hne (.symbol ⟨⟨0, 0⟩, ""⟩) (by simp), hne (.matched ⟨0, ⟨0, ""⟩, "", []⟩) (by simp)⟩

theorem found_inspect (h : cls ∉ ownDisplay) :
    (lastDefined definitions cls "inspect").or (lastDefined definitions objectClass "inspect") =
      some (.builtin (.object .inspect)) :=
  found_shared ownDisplay (by decide) (by decide) h

theorem found_toS (h : cls ∉ ownDisplay) :
    (lastDefined definitions cls "to_s").or (lastDefined definitions objectClass "to_s") =
      some (.builtin (.object .toS)) :=
  found_shared ownDisplay (by decide) (by decide) h

theorem found_inspector (hv : ¬ v.Impersonates) :
    (lastDefined definitions v.className "inspect").or
      (lastDefined definitions objectClass "inspect") = some (.builtin (inspector v)) := by
  cases v with
  | object o => exact found_inspect (not_mem_ownDisplay hv)
  | bool b => cases b <;> decide
  | _ =>
    simp only [Value.className, inspector]
    decide

theorem found_displayer (hv : ¬ v.Impersonates) :
    (lastDefined definitions v.className "to_s").or (lastDefined definitions objectClass "to_s") =
      some (.builtin (displayer v)) := by
  cases v with
  | object o => exact found_toS (not_mem_ownDisplay hv)
  | bool b => cases b <;> decide
  | _ =>
    simp only [Value.className, displayer]
    decide

theorem run_inspector (send : Sender) (htext : m.heap.inspect? v = some text) (keywords : Bool) :
    (inspector v).run host send v ⟨[], keywords⟩ m = newString text m := by
  have hshared : (orEndless (m.heap.inspect? v) >>= newString) m = newString text m := by
    rw [htext]
    rfl
  cases v with
  | integer i | float d | symbol s =>
    rw [Heap.inspect?_eq] at htext
    cases htext
    rfl
  | _ => exact hshared

theorem run_displayer (send : Sender) (hv : ∀ s, v ≠ .string s)
    (htext : m.heap.display? v = some text) (keywords : Bool) :
    (displayer v).run host send v ⟨[], keywords⟩ m = newString text m := by
  have hshared : (orEndless (m.heap.display? v) >>= newString) m = newString text m := by
    rw [htext]
    rfl
  cases v with
  | string s => exact absurd rfl (hv s)
  | integer i | float d =>
    change m.heap.inspect? _ = some text at htext
    rw [Heap.inspect?_eq] at htext
    cases htext
    rfl
  | symbol s | matched k =>
    cases htext
    rfl
  | _ => exact hshared

end Builtin

namespace Machine

/-- The value answers the message with a string of that text, now and as long as old contents stay.
That only adds to the machine. -/
def Tells (host : Host) (m : Machine) (v : Value) (message text : String) : Prop :=
  ∀ m', Steady True m m' → ∀ n keywords, ∃ s m'', reply host n v message ⟨[], keywords⟩ m' =
    .ok (.string s) m'' ∧
    s.text = text ∧ Steady False m' m''

theorem Tells.eq (h : m.Tells host v message text) (h' : m.Tells host v message text') :
    text = text' := by
  obtain ⟨s, _, hs, rfl, -⟩ := h m (.refl m) 0 false
  obtain ⟨s', _, hs', rfl, -⟩ := h' m (.refl m) 0 false
  rw [hs] at hs'
  cases hs'
  rfl

theorem Tells.iff (h : m.Tells host v message text) : m.Tells host v message text' ↔ text' = text :=
  ⟨fun h' => h'.eq h, fun heq => heq ▸ h⟩

theorem Steady.of_interns (h : m.Interns m') : Steady False m m' :=
  ⟨h.keeps, h.heap ▸ .refl _, .inr h.register⟩

theorem exists_newString (m : Machine) (text : String) :
    ∃ s m', newString text m = .ok (.string s) m' ∧
    s.text = text ∧ Steady False m m' :=
  ⟨_, _, rfl, rfl, Frame.heap _ _, m.heap.grows_newString text, .inr rfl⟩

theorem Steady.knows {may : Prop} (h : Steady may m m') (hv : m.heap.Showable v)
    (hknows : m.Knows v) : m'.Knows v := by
  cases v with
  | object o =>
    have ho : o.ref < m.heap.objects.size := by
      simpa [Heap.places] using hv.stored (a := .object o.ref) rfl
    refine ⟨h.keeps.symbols.mem_symbols hknows.1,
      fun e he => h.keeps.symbols.mem_symbols (hknows.2 e ?_)⟩
    rwa [h.grows.fields_eq ho] at he
  | _ => trivial

section Reply

variable (hd : m.Defines Builtin.definitions) (hknows : m.Knows v) (hv : ¬ v.Impersonates)

include hd hknows hv

theorem Defines.reply_inspect (htext : m.heap.inspect? v = some text) :
    reply host n v "inspect" ⟨[], keywords⟩ m = newString text (m.withSymbols v "inspect") := by
  rw [← m.heap_withSymbols v "inspect"] at htext
  rw [hd.reply_eq hknows, Builtin.found_inspector hv]
  exact Builtin.run_inspector _ htext keywords

theorem Defines.reply_toS (hstring : ∀ s, v ≠ .string s) (htext : m.heap.display? v = some text) :
    reply host n v "to_s" ⟨[], keywords⟩ m = newString text (m.withSymbols v "to_s") := by
  rw [← m.heap_withSymbols v "to_s"] at htext
  rw [hd.reply_eq hknows, Builtin.found_displayer hv]
  exact Builtin.run_displayer _ hstring htext keywords

variable (hshowable : m.heap.Showable v)

include hshowable

theorem Defines.tells_inspect (htext : m.heap.inspect? v = some text) :
    m.Tells host v "inspect" text := by
  intro m' hm n keywords
  have htext' := (hm.grows.inspect?_eq hshowable).trans htext
  obtain ⟨s, m'', hs, hstext, hsteady⟩ := exists_newString (m'.withSymbols v "inspect") text
  have hd' := hd.extends hm.keeps
  refine ⟨s, m'', ?_, hstext, .trans (.of_interns (interns_withSymbols m' v "inspect")) hsteady⟩
  exact (hd'.reply_inspect (hm.knows hshowable hknows) hv htext').trans hs

theorem Defines.tells_toS (htext : m.heap.display? v = some text) : m.Tells host v "to_s" text := by
  intro m' hm n keywords
  have hd' := hd.extends hm.keeps
  have hknows' := hm.knows hshowable hknows
  have hsymbols := Steady.of_interns (interns_withSymbols m' v "to_s")
  by_cases hstring : ∃ s, v = .string s
  · obtain ⟨s, rfl⟩ := hstring
    refine ⟨s, _, ?_, Option.some.inj htext, hsymbols⟩
    rw [hd'.reply_eq hknows', Builtin.found_displayer hv]
    rfl
  · have htext' := (hm.grows.display?_eq hshowable).trans htext
    obtain ⟨s, m'', hs, hstext, hsteady⟩ := exists_newString (m'.withSymbols v "to_s") text
    refine ⟨s, m'', ?_, hstext, hsymbols.trans hsteady⟩
    exact (hd'.reply_toS hknows' hv (fun s hs => hstring ⟨s, hs⟩) htext').trans hs

end Reply

/-- The messages for display tell what a value is displayed as. -/
structure Displays (host : Host) (m : Machine) (v : Value) : Prop where
  inspect : ∃ text, m.heap.inspect? v = some text ∧ ∀ s, m.Tells host v "inspect" s ↔ s = text
  to_s : ∃ text, m.heap.display? v = some text ∧ ∀ s, m.Tells host v "to_s" s ↔ s = text
  /-- At every depth, the text that a value tells is composed of the texts that its parts tell. -/
  composed : (∀ p, Relation.ReflTransGen m.heap.ShownIn p v → m.Knows p ∧ ¬ p.Impersonates) →
    ∃ text : Value → String, ∀ p, Relation.ReflTransGen m.heap.ShownIn p v →
      (∀ s, m.Tells host p "inspect" s ↔ s = text p) ∧
        m.heap.literal? (fun q => some (text q)) p = some (text p)

theorem Defines.displays (hd : m.Defines Builtin.definitions) (hknows : m.Knows v)
    (hshowable : m.heap.Showable v) (hv : ¬ v.Impersonates) : Displays host m v where
  inspect := by
    have htext := hshowable.inspect?_eq_some
    exact ⟨_, htext, fun _ => (hd.tells_inspect hknows hv hshowable htext).iff⟩
  to_s := by
    obtain ⟨text, htext⟩ := hshowable.exists_display
    exact ⟨text, htext, fun _ => (hd.tells_toS hknows hv hshowable htext).iff⟩
  composed hparts := by
    refine ⟨m.heap.inspect, fun p hp => ?_⟩
    have hpart := hshowable.inside hp
    have htext := hpart.inspect?_eq_some
    refine ⟨fun _ => (hd.tells_inspect (hparts p hp).1 (hparts p hp).2 hpart htext).iff, ?_⟩
    rw [Heap.literal?_some, hpart.inspect_eq]

theorem exists_holding : ∃ (m : Machine) (cls x : Symbol), m.Defines Builtin.definitions ∧
    cls.name = "Point" ∧
    x.name = "x" ∧ m.heap = ⟨.empty, #[[.integer 1, .nil]], #[], #[[(x, .array 0)]], 0, id⟩ ∧
    m.Knows (.object ⟨0, cls⟩) := by
  obtain ⟨m, cls, x, hd, hclsmem, hcls, hxmem, hx⟩ := exists_symbols "Point" "x"
  refine ⟨{ m with heap := ⟨.empty, #[[.integer 1, .nil]], #[], #[[(x, .array 0)]], 0, id⟩ }, cls,
    x, hd.extends (Frame.heap (R := Extends) _ _), hcls, hx, rfl, hclsmem, fun e he => ?_⟩
  obtain rfl := List.mem_singleton.mp he
  exact hxmem

/-- A point whose field holds an array. -/
theorem displays_point : ∃ (m : Machine) (o : Object), m.Defines Builtin.definitions ∧
    m.Knows (.object o) ∧
    m.heap.Showable (.object o) ∧ ¬ (Value.object o).Impersonates ∧
    m.Tells .idle (.object o) "inspect" "#<Point x=[1, nil]>" ∧
    m.Tells .idle (.object o) "to_s" "#<Point x=[1, nil]>" ∧
    ∃ text, m.Tells .idle (.array 0) "inspect" text ∧
      "#<Point x=[1, nil]>" = Heap.objectText "Point" [("x", text)] := by
  obtain ⟨m, cls, x, hd, hcls, hx, hheap, hknows⟩ := exists_holding
  have hshown : m.heap.shown (.object ⟨0, cls⟩) = [.array 0] ∧
      m.heap.shown (.array 0) = [.integer 1, .nil] := by
    rw [hheap]
    exact ⟨rfl, rfl⟩
  have hshowable : m.heap.Showable (.object ⟨0, cls⟩) := by
    have harray : m.heap.Showable (.array 0) := by
      refine .intro (by rintro _ ⟨⟩; simp [Heap.places, hheap]) fun p hp => ?_
      simp only [hshown.2, List.mem_cons, List.not_mem_nil, or_false] at hp
      rcases hp with rfl | rfl <;> exact .of_flat rfl
    refine .intro (by rintro _ ⟨⟩; simp [Heap.places, hheap]) fun p hp => ?_
    rw [hshown.1, List.mem_singleton] at hp
    exact hp ▸ harray
  have hv : ¬ (Value.object ⟨0, cls⟩).Impersonates := by
    rintro ⟨w, hw, hname⟩
    rw [hcls] at hname
    cases w with
    | object o => exact hw o rfl
    | bool b => cases b <;> exact absurd hname (by decide)
    | _ => exact absurd hname (by simp [Value.className])
  have hparts : ∀ p, Relation.ReflTransGen m.heap.ShownIn p (.object ⟨0, cls⟩) → m.Knows p ∧
      ¬ p.Impersonates := by
    intro p hp
    have hmem : p ∈ [.object ⟨0, cls⟩, .array 0, .integer 1, .nil] := by
      refine Heap.mem_of_inside ?_ List.mem_cons_self hp
      simp only [List.forall_mem_cons, hshown.1, hshown.2]
      simp [Heap.shown]
    simp only [List.mem_cons, List.not_mem_nil, or_false] at hmem
    rcases hmem with rfl | rfl | rfl | rfl
    · exact ⟨hknows, hv⟩
    all_goals exact ⟨trivial, id⟩
  have hinspect : m.heap.inspect? (.object ⟨0, cls⟩) = some "#<Point x=[1, nil]>" := by
    rw [hheap]
    change some ("#<" ++ cls.name ++ " " ++ (x.name ++ "=" ++ "[1, nil]") ++ ">") = _
    rw [hcls, hx]
    decide
  have hdisplays : Displays .idle m (.object ⟨0, cls⟩) := hd.displays hknows hshowable hv
  obtain ⟨shown, hshows, hinspects⟩ := hdisplays.inspect
  obtain ⟨displayed, hdisplayed, htoS⟩ := hdisplays.to_s
  obtain rfl := Option.some.inj (hshows.symm.trans hinspect)
  obtain rfl := Option.some.inj (hdisplayed.symm.trans hinspect)
  have htells := (hinspects _).mpr rfl
  obtain ⟨text, htext⟩ := hdisplays.composed hparts
  refine ⟨m, ⟨0, cls⟩, hd, hknows, hshowable, hv, htells, (htoS _).mpr rfl, text (.array 0), ?_, ?_⟩
  · exact ((htext _ (.single (by simp [Heap.ShownIn, hshown.1]))).1 _).mpr rfl
  · obtain ⟨hobject, hcomposed⟩ := htext _ .refl
    rw [← (hobject _).mp htells, Heap.literal?_some, Heap.literal_object, hheap] at hcomposed
    rw [← Option.some.inj hcomposed, ← hcls, ← hx]
    rfl

end Machine

end LateBinding
