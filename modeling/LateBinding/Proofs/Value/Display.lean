import LateBinding.Proofs.Entries
import LateBinding.Proofs.Symbol.Display
import LateBinding.Proofs.Value.Nesting
import LateBinding.Proofs.Value.Showing
import Mathlib.Tactic.IntervalCases

/-! # Reading values back

The first character of a literal form tells the kind of the value. What stands behind is delimited,
so a literal form determines its value, up to which of several alike containers and strings it
holds.
-/

namespace LateBinding.Heap

open Delimited

variable {h : Heap} {v w : Value} {n m : ℕ} {c : Char}

/-- The values without cycles whose literal forms can be read back. -/
inductive Literal (h : Heap) : Value → Prop
  | nil : Literal h .nil
  | bool (b : Bool) : Literal h (.bool b)
  | integer (i : Int64) : Literal h (.integer i)
  | string (s : Str) : Literal h (.string s)
  | symbol {s : Symbol} (readable : s.IsReadable) : Literal h (.symbol s)
  | array {r : ℕ} (stored : r < h.arrays.size) (items : ∀ v ∈ h.array r, Literal h v) :
      Literal h (.array r)
  | hash {r : ℕ} (stored : r < h.hashes.size) (keys : ∀ e ∈ h.hash r, Literal h e.1)
      (values : ∀ e ∈ h.hash r, Literal h e.2) : Literal h (.hash r)

/-- Of the same structure: strings with the same text, symbols with the same name, and containers
with like parts in the same order. -/
inductive Alike (h : Heap) : Value → Value → Prop
  | nil : Alike h .nil .nil
  | bool (b : Bool) : Alike h (.bool b) (.bool b)
  | integer (i : Int64) : Alike h (.integer i) (.integer i)
  | string {s t : Str} (text : s.text = t.text) : Alike h (.string s) (.string t)
  | symbol {s t : Symbol} (name : s.name = t.name) : Alike h (.symbol s) (.symbol t)
  | array {r q : ℕ} (items : List.Forall₂ (Alike h) (h.array r) (h.array q)) :
      Alike h (.array r) (.array q)
  | hash {r q : ℕ}
      (keys : List.Forall₂ (Alike h) ((h.hash r).map Prod.fst) ((h.hash q).map Prod.fst))
      (values : List.Forall₂ (Alike h) ((h.hash r).map Prod.snd) ((h.hash q).map Prod.snd)) :
      Alike h (.hash r) (.hash q)

theorem Literal.showable (hv : h.Literal v) : h.Showable v := by
  induction hv with
  | array stored _ ih => exact .intro (by rintro _ ⟨⟩; simpa [places] using stored) ih
  | hash stored _ _ keys values =>
    refine .intro (by rintro _ ⟨⟩; simpa [places] using stored) fun p hp => ?_
    obtain ⟨e, he, hp⟩ := List.mem_flatMap.mp hp
    simp only [List.mem_cons, List.not_mem_nil, or_false] at hp
    rcases hp with rfl | rfl
    · exact keys e he
    · exact values e he
  | _ => exact .of_flat rfl

def lead : Value → Char
  | .nil => 'n'
  | .bool _ => 't'
  | .integer _ => '0'
  | .string _ => '"'
  | .symbol _ => ':'
  | .array _ => '['
  | _ => '\x7b'

def leadOf (c : Char) : Char := if c.isDigit || c == '-' then '0' else if c == 'f' then 't' else c

theorem isDigit_of_mem_repr {k : ℕ} (hc : c ∈ k.repr.toList) : c.isDigit = true := by
  rw [Nat.toList_repr] at hc
  exact Nat.isDigit_of_mem_toDigits (b := 10) (by decide) (by decide) hc

theorem mem_toString_int {i : ℤ} (hc : c ∈ (toString i).toList) : c.isDigit = true ∨ c = '-' := by
  rw [Int.toString_eq_repr, Int.repr_eq_if] at hc
  split at hc
  · exact .inl (isDigit_of_mem_repr hc)
  · rw [String.toList_append, List.mem_append] at hc
    rcases hc with hc | hc
    · exact .inr (by simpa using hc)
    · exact .inl (isDigit_of_mem_repr hc)

theorem repr_nat_inj (he : n.repr = m.repr) : n = m := by
  have hvalue := congrArg (fun s => Nat.ofDigitChars 10 s.toList 0) he
  simpa only [Nat.toList_repr, Nat.ofDigitChars_ten_toDigits] using hvalue

theorem toString_int_inj {i j : ℤ} : toString i = toString j ↔ i = j := by
  have hminus : ∀ k : ℕ, '-' ∉ k.repr.toList := fun k hk =>
    absurd (isDigit_of_mem_repr hk) (by decide)
  refine ⟨fun he => ?_, congrArg toString⟩
  rw [Int.toString_eq_repr, Int.toString_eq_repr, Int.repr_eq_if, Int.repr_eq_if] at he
  split at he <;> split at he
  · have htoNat := repr_nat_inj he
    omega
  · exact absurd (by simp [he]) (hminus i.toNat)
  · exact absurd (by simp [← he]) (hminus j.toNat)
  · rw [← String.toList_inj, String.toList_append, String.toList_append] at he
    have habs := repr_nat_inj (String.toList_inj.mp (List.append_cancel_left he))
    omega

theorem toString_int_ne_nil (i : ℤ) : (toString i).toList ≠ [] := by
  rw [Int.toString_eq_repr, Int.repr_eq_if]
  split <;> simp [Nat.toList_repr, Nat.toDigits_ne_nil]

theorem not_isDelimiter_of_mem_toString_int {i : ℤ} (hc : c ∈ (toString i).toList) :
    isDelimiter c = false := by
  rcases mem_toString_int hc with hd | rfl
  · rw [← Bool.not_eq_true]
    intro hdelim
    simp only [isDelimiter, Bool.or_eq_true, beq_iff_eq] at hdelim
    rcases hdelim with ((rfl | rfl) | rfl) | rfl <;> revert hd <;> decide
  · rfl

theorem inspect_eq_of_literal? {text : String} (htext : h.literal? h.inspect? v = some text) :
    h.inspect v = text := by
  rw [inspect, inspect?_eq, htext, Option.getD_some]

theorem inspect_nil (h : Heap) : h.inspect .nil = "nil" := inspect_eq_of_literal? rfl

theorem inspect_bool (h : Heap) (b : Bool) : h.inspect (.bool b) = if b then "true" else "false" :=
  inspect_eq_of_literal? rfl

theorem inspect_integer (h : Heap) (i : Int64) : h.inspect (.integer i) = toString i.toInt :=
  inspect_eq_of_literal? rfl

theorem inspect_string (h : Heap) (s : Str) : h.inspect (.string s) = quote s.text :=
  inspect_eq_of_literal? rfl

theorem inspect_symbol (h : Heap) (s : Symbol) : h.inspect (.symbol s) = s.inspect :=
  inspect_eq_of_literal? rfl

theorem Literal.toList_inspect_array {r : ℕ} (hr : h.Literal (.array r)) :
    (h.inspect (.array r)).toList =
    '[' :: (commaChars ((h.array r).map fun v => (h.inspect v).toList) ++ [']']) := by
  rw [hr.showable.inspect_eq]
  simp [literal_array, toList_commaList, Function.comp_def]

def entryChars (h : Heap) (e : Value × Value) : List Char :=
  (h.inspect e.1).toList ++ ' ' :: '=' :: '>' :: ' ' :: (h.inspect e.2).toList

theorem Literal.toList_inspect_hash {r : ℕ} (hr : h.Literal (.hash r)) :
    (h.inspect (.hash r)).toList =
    '\x7b' :: (commaChars ((h.hash r).map h.entryChars) ++ ['\x7d']) := by
  rw [hr.showable.inspect_eq]
  unfold entryChars
  simp [literal_hash, toList_commaList, Function.comp_def]

/-- A literal form has a first character. It is no delimiter, and it tells the kind of the value. -/
theorem Literal.leads (hv : h.Literal v) :
    ∃ c t, (h.inspect v).toList = c :: t ∧ leadOf c = lead v ∧ isDelimiter c = false := by
  have hvalue := hv
  cases hv with
  | nil => exact ⟨'n', ['i', 'l'], by simp [inspect_nil], rfl, rfl⟩
  | bool b =>
    cases b with
    | false => exact ⟨'f', ['a', 'l', 's', 'e'], by simp [inspect_bool], rfl, rfl⟩
    | true => exact ⟨'t', ['r', 'u', 'e'], by simp [inspect_bool], rfl, rfl⟩
  | integer i =>
    rw [inspect_integer]
    cases hchars : (toString i.toInt).toList with
    | nil => exact absurd hchars (toString_int_ne_nil _)
    | cons c t =>
      have hc : c ∈ (toString i.toInt).toList := hchars ▸ List.mem_cons_self
      refine ⟨c, t, rfl, ?_, not_isDelimiter_of_mem_toString_int hc⟩
      rcases mem_toString_int hc with hd | rfl
      · simp [leadOf, lead, hd]
      · rfl
  | string s =>
    refine ⟨'"', Quoted.escape s.text.toList ++ ['"'], ?_, rfl, rfl⟩
    simp [inspect_string, quote, Quoted.quoteChars]
  | symbol readable => exact ⟨':', _, by rw [inspect_symbol, Symbol.toList_inspect], rfl, rfl⟩
  | array => exact ⟨'[', _, hvalue.toList_inspect_array, rfl, rfl⟩
  | hash => exact ⟨'\x7b', _, hvalue.toList_inspect_hash, rfl, rfl⟩

theorem Literal.opens (hv : h.Literal v) : Opens (h.inspect v).toList := by
  obtain ⟨c, t, htext, -, hc⟩ := hv.leads
  exact ⟨c, t, htext, hc⟩

theorem agreeOnlyIf_of_lead_ne (hv : h.Literal v) (hw : h.Literal w) (hne : lead v ≠ lead w) :
    AgreeOnlyIf (h.Alike v w) (h.inspect v).toList (h.inspect w).toList := by
  obtain ⟨c, t, hvc, hlead, -⟩ := hv.leads
  obtain ⟨d, u, hwd, hlead', -⟩ := hw.leads
  intro r s _ _ he
  rw [hvc, hwd] at he
  rw [← hlead, ← hlead', (List.cons.inj he).1] at hne
  exact absurd rfl hne

theorem agreeOnlyIf_of_flat (hv : h.Literal v) (hw : h.Literal w) (hflat : v.isContainer = false)
    (hlead : lead v = lead w) :
    AgreeOnlyIf (h.Alike v w) (h.inspect v).toList (h.inspect w).toList := by
  cases hv <;> cases hw <;> cases hlead
  case nil.nil =>
    exact fun r s _ _ he => ⟨.nil, List.append_cancel_left he⟩
  case bool.bool b b' =>
    rw [inspect_bool, inspect_bool]
    have hword : ∀ x : Bool, ∀ c ∈ (if x then "true" else "false").toList,
        isDelimiter c = false := by
      intro x
      cases x <;> simp [isDelimiter]
    refine (AgreeOnlyIf.word (hword b) (hword b')).imp fun he => ?_
    obtain rfl : b = b' := by cases b <;> cases b' <;> simp at he ⊢
    exact .bool b
  case integer.integer i j =>
    rw [inspect_integer, inspect_integer]
    refine (AgreeOnlyIf.word (fun _ => not_isDelimiter_of_mem_toString_int)
      fun _ => not_isDelimiter_of_mem_toString_int).imp fun he => ?_
    rw [String.toList_inj, toString_int_inj] at he
    rw [Int64.toInt_inj.mp he]
    exact .integer j
  case string.string s t =>
    rw [inspect_string, inspect_string, quote, quote, String.toList_ofList,
      String.toList_ofList]
    intro r r' _ _ he
    obtain ⟨htext, hrest⟩ := Quoted.quoteChars_append_inj he
    exact ⟨.string (String.toList_inj.mp htext), hrest⟩
  case symbol.symbol s hs t ht =>
    rw [inspect_symbol, inspect_symbol]
    exact (Symbol.agreeOnlyIf_inspect hs ht).imp .symbol
  case array.array => cases hflat
  case hash.hash => cases hflat

theorem agreeOnlyIf_array {r q : ℕ} (hr : h.Literal (.array r)) (hq : h.Literal (.array q))
    (hitems : ∀ v ∈ h.array r, h.Literal v) (hitems' : ∀ w ∈ h.array q, h.Literal w)
    (hagree : ∀ v ∈ h.array r, ∀ w ∈ h.array q,
      AgreeOnlyIf (h.Alike v w) (h.inspect v).toList (h.inspect w).toList) :
    AgreeOnlyIf (h.Alike (.array r) (.array q)) (h.inspect (.array r)).toList
      (h.inspect (.array q)).toList := by
  rw [hr.toList_inspect_array, hq.toList_inspect_array]
  refine AgreeOnlyIf.cons (AgreeOnlyIf.imp ?_ .array) _
  exact AgreeOnlyIf.items rfl (by decide) (fun v hv => (hitems v hv).opens)
    (fun w hw => (hitems' w hw).opens) hagree

theorem agreeOnlyIf_hash {r q : ℕ} (hr : h.Literal (.hash r)) (hq : h.Literal (.hash q))
    (hkey : ∀ e ∈ h.hash r, h.Literal e.1) (hkey' : ∀ e ∈ h.hash q, h.Literal e.1)
    (hkeys : ∀ d ∈ h.hash r, ∀ e ∈ h.hash q,
      AgreeOnlyIf (h.Alike d.1 e.1) (h.inspect d.1).toList (h.inspect e.1).toList)
    (hvalues : ∀ d ∈ h.hash r, ∀ e ∈ h.hash q,
      AgreeOnlyIf (h.Alike d.2 e.2) (h.inspect d.2).toList (h.inspect e.2).toList) :
    AgreeOnlyIf (h.Alike (.hash r) (.hash q)) (h.inspect (.hash r)).toList
      (h.inspect (.hash q)).toList := by
  have hopen : ∀ e : Value × Value, h.Literal e.1 → Opens (h.entryChars e) := by
    intro e he
    obtain ⟨c, t, htext, hc⟩ := he.opens
    rw [entryChars, htext]
    exact ⟨c, _, rfl, hc⟩
  rw [hr.toList_inspect_hash, hq.toList_inspect_hash]
  refine AgreeOnlyIf.cons (AgreeOnlyIf.imp (AgreeOnlyIf.items rfl (by decide)
    (fun d hd => hopen d (hkey d hd)) (fun e he => hopen e (hkey' e he))
    fun d hd e he => (hkeys d hd e he).arrow (hvalues d hd e he)) fun hentries => ?_) _
  refine .hash ?_ ?_
  · rw [List.forall₂_map_left_iff, List.forall₂_map_right_iff]
    exact hentries.imp fun _ _ => And.left
  · rw [List.forall₂_map_left_iff, List.forall₂_map_right_iff]
    exact hentries.imp fun _ _ => And.right

theorem agreeOnlyIf_inspect (hv : h.Literal v) (hw : h.Literal w) :
    AgreeOnlyIf (h.Alike v w) (h.inspect v).toList (h.inspect w).toList := by
  -- By induction on the first value: what stands between two brackets is told apart before the
  -- brackets are.
  have hvalue := hv
  induction hv generalizing w with
  | @array r _ hr ih =>
    by_cases hlead : lead (.array r) = lead w
    case neg => exact agreeOnlyIf_of_lead_ne hvalue hw hlead
    have hother := hw
    cases hw <;> cases hlead
    next hq => exact agreeOnlyIf_array hvalue hother hr hq fun v hv w hw =>
                 ih v hv (hq w hw) (hr v hv)
  | @hash r _ hkr hvr keys values =>
    by_cases hlead : lead (.hash r) = lead w
    case neg => exact agreeOnlyIf_of_lead_ne hvalue hw hlead
    have hother := hw
    cases hw <;> cases hlead
    next hkq hvq =>
      refine agreeOnlyIf_hash hvalue hother hkr hkq ?_ ?_
      · exact fun d hd e he => keys d hd (hkq e he) (hkr d hd)
      · exact fun d hd e he => values d hd (hvq e he) (hvr d hd)
  | _ =>
    rcases eq_or_ne _ (lead w) with hlead | hlead
    · exact agreeOnlyIf_of_flat hvalue hw rfl hlead
    · exact agreeOnlyIf_of_lead_ne hvalue hw hlead

theorem Alike.inspect?_eq (hvw : h.Alike v w) : h.inspect? v = h.inspect? w := by
  -- By induction on the depth: like values are shown alike.
  have hstep : ∀ f g : Value → Option String, (∀ v w, h.Alike v w → f v = g w) →
      ∀ v w, h.Alike v w → h.literal? f v = h.literal? g w := by
    intro f g hfg v w hvw
    cases hvw with
    | string text => rw [literal?, literal?, text]
    | symbol name => rw [literal?, literal?, Symbol.inspect_congr name]
    | array items => rw [literal?, literal?, mapM_eq_of_forall₂ (items.imp hfg)]
    | @hash r q keys values =>
      rw [List.forall₂_map_left_iff, List.forall₂_map_right_iff,
        List.forall₂_iff_zip] at keys values
      have hentries : List.Forall₂ (fun d e => f d.1 = g e.1 ∧
          f d.2 = g e.2) (h.hash r) (h.hash q) :=
        List.forall₂_iff_zip.mpr ⟨keys.1, fun hp => ⟨hfg _ _ (keys.2 hp), hfg _ _ (values.2 hp)⟩⟩
      rw [literal?, literal?, mapM_eq_of_forall₂ (hentries.imp fun d e hde => ?_)]
      simp only [hde.1, hde.2]
    | _ => rfl
  exact unroll_rel rfl hstep h.depth hvw

/-- The literal form is unambiguous: values without cycles have one, and it is the same for two of
them exactly if they have the same structure. -/
theorem inspect_eq_iff (hv : h.Literal v) (hw : h.Literal w) :
    (h.inspect? v).isSome = true ∧ (h.inspect? v = h.inspect? w ↔ h.Alike v w) := by
  refine ⟨isSome_inspect?.mpr hv.showable.acc, ?_, Alike.inspect?_eq⟩
  intro he
  have hinspect : h.inspect v = h.inspect w := by rw [inspect, inspect, he]
  exact (agreeOnlyIf_inspect hv hw).of_eq (String.toList_inj.mpr hinspect)

def lookalikes : Heap :=
  let operators : List Value := [.symbol ⟨⟨0, 0⟩, "[]"⟩, .symbol ⟨⟨0, 1⟩, "[]="⟩]
  { Heap.empty with
    arrays := #[operators, operators, [.string ⟨2, "[], :[]="⟩]]
    hashes := #[[(.array 0, .string ⟨0, "a => b"⟩)], [(.array 1, .string ⟨1, "a => b"⟩)]] }

theorem inspect_eq_iff_lookalikes :
    lookalikes.inspect? (.hash 0) = lookalikes.inspect? (.hash 1) ∧
      lookalikes.inspect? (.array 0) ≠ lookalikes.inspect? (.array 2) := by
  have hop : ∀ r < 2, lookalikes.Literal (.array r) := by
    intro r hr
    refine .array (Nat.lt_trans hr (by decide)) fun v hv => ?_
    obtain rfl | rfl : v = .symbol ⟨⟨0, 0⟩, "[]"⟩ ∨ v = .symbol ⟨⟨0, 1⟩, "[]="⟩ := by
      interval_cases r <;> simpa [lookalikes, Heap.array] using hv
    · exact .symbol (by decide)
    · exact .symbol (by decide)
  have hash : ∀ r < 2, lookalikes.Literal (.hash r) := by
    intro r hr
    have hentry : ∀ e ∈ lookalikes.hash r, e = (.array r, .string ⟨r, "a => b"⟩) := by
      interval_cases r <;> simp [lookalikes, Heap.hash]
    refine .hash hr (fun e he => ?_) fun e he => ?_
    · rw [hentry e he]
      exact hop r hr
    · rw [hentry e he]
      exact .string _
  constructor
  · refine (inspect_eq_iff (hash 0 (by decide)) (hash 1 (by decide))).2.mpr (.hash ?_ ?_)
    · exact .cons (.array (.cons (.symbol rfl) (.cons (.symbol rfl) .nil))) .nil
    · exact .cons (.string rfl) .nil
  · intro he
    have htext : lookalikes.Literal (.array 2) := by
      refine .array (by decide) fun v hv => ?_
      obtain rfl : v = .string ⟨2, "[], :[]="⟩ := by simpa [lookalikes, Heap.array] using hv
      exact .string _
    have halike := (inspect_eq_iff (hop 0 (by decide)) htext).2.mp he
    cases halike with
    | array items => cases items.length_eq

end LateBinding.Heap
