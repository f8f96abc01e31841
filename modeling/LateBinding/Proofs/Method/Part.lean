import LateBinding.Proofs.Machine.Conversion
import LateBinding.Proofs.Method.Likeness

/-! # Characters by number

An index is a place counted from the front or from the end, and a length is cut down to what is left
of the text. The bytes where the characters start lead to those very characters. Other values are
converted first, the index before the length, and no register is set on the way.
-/

namespace LateBinding

open Eval

variable {m : Machine} {send : Sender} {text : String} {cs : List Char} {v : Value}

def Slice.place (i : Int64) (n : ℕ) : ℤ := if 0 ≤ i.toInt then i.toInt else i.toInt + n

structure Slice.IsStretch (cs : List Char) (a b : ℕ) (r : List Char) : Prop where
  length : r.length = b - a
  get : ∀ j < b - a, r[j]? = cs[a + j]?

theorem Slice.isStretch_chars (start count : ℕ) (cs : List Char) :
    Slice.IsStretch cs start (min (start + count) cs.length) (Slice.chars start count cs) := by
  refine ⟨?_, fun j hj => ?_⟩
  · rw [Slice.chars, List.length_take, List.length_drop]
    omega
  · rw [Slice.chars, List.getElem?_take_of_lt (by omega), List.getElem?_drop]

theorem Slice.chars_one {start : ℕ} (h : start < cs.length) :
    Slice.chars start 1 cs = [cs[start]] := by
  rw [Slice.chars, List.drop_eq_getElem_cons h]
  rfl

/-- A length that is cut down to what is left picks the same characters. -/
theorem Slice.chars_min (start count : ℕ) (cs : List Char) :
    Slice.chars start (min count (cs.length - start)) cs = Slice.chars start count cs := by
  rw [Slice.chars, Slice.chars, List.take_eq_take_iff, List.length_drop]
  omega

namespace StringMethod

theorem cut_eq (cs : List Char) (start n : ℕ) :
    cut cs start n = newString (String.ofList (Slice.chars start n cs)) := by
  unfold cut
  rw [Slice.cut?_eq]
  rfl

theorem sum_eq {x y : ℤ} (h : IsWord (x + y)) :
    sum x y = pure (x + y) := if_pos h

theorem fromEnd_eq {n : ℕ} (hn : Sized n) (i : Int64) : fromEnd i n = pure (Slice.place i n) := by
  have hmin := i.le_toInt
  unfold Sized wordBound at hn
  unfold fromEnd Slice.place
  by_cases hi : i.toInt < 0
  · rw [if_pos hi, if_neg (by omega), sum_eq (by unfold IsWord wordBound; omega)]
  · rw [if_neg hi, if_pos (by omega)]

theorem refer_eq_part (hregexp : ∀ r, v ≠ .regexp r) (hstring : ∀ s, v ≠ .string s) (send : Sender)
    (text : String) (length : Option Value) :
    refer send text v length = part send text v length := by
  cases v with
  | regexp r => exact absurd rfl (hregexp r)
  | string s => exact absurd rfl (hstring s)
  | _ => rfl

theorem toInt_integer (send : Sender) (i : Int64) : toInt send (.integer i) = pure i := rfl

/-- What the integer forms of an index come to. Other values than integers are converted, the index
first, and regexps and strings are no numbers. -/
structure Picks (send : Sender) (text : String) : Prop where
  one : ∀ (i : Int64) (s : ℕ) (hs : s < text.toList.length), Slice.place i text.toList.length = s →
    refer send text (.integer i) none = newString (String.singleton text.toList[s])
  outside : ∀ i : Int64, Slice.place i text.toList.length < 0 ∨
      text.toList.length ≤ Slice.place i text.toList.length →
    refer send text (.integer i) none = pure .nil
  many : ∀ (i l : Int64) (s : ℕ), s ≤ text.toList.length → Slice.place i text.toList.length = s →
    0 ≤ l.toInt →
    ∃ r, Slice.IsStretch text.toList s (min (s + l.toInt.toNat) text.toList.length) r ∧
      refer send text (.integer i) (some (.integer l)) = newString (String.ofList r)
  beyond : ∀ i l : Int64, Slice.place i text.toList.length < 0 ∨
      text.toList.length < Slice.place i text.toList.length ∨ l.toInt < 0 →
    refer send text (.integer i) (some (.integer l)) = pure .nil
  index : ∀ v, (∀ r, v ≠ .regexp r) → (∀ t, v ≠ .string t) →
    refer send text v none = toInt send v >>= fun i => refer send text (.integer i) none
  bounds : ∀ v w, (∀ r, v ≠ .regexp r) → (∀ t, v ≠ .string t) →
    refer send text v (some w) = toInt send v >>= fun i => toInt send w >>= fun l =>
      refer send text (.integer i) (some (.integer l))

section Sized

variable (ht : Sized text.toList.length)

include ht

theorem part_one (i : Int64) : part send text (.integer i) none =
    if Slice.place i text.toList.length < 0 ∨
    text.toList.length ≤ Slice.place i text.toList.length then
      pure .nil
    else newString
      (String.ofList (Slice.chars (Slice.place i text.toList.length).toNat 1 text.toList)) := by
  simp only [part, toInt_integer, pure_bind, fromEnd_eq ht, cut_eq]

theorem part_many (i l : Int64) : part send text (.integer i) (some (.integer l)) =
    if Slice.place i text.toList.length < 0 ∨
    text.toList.length < Slice.place i text.toList.length ∨
        l.toInt < 0 then
      pure .nil
    else newString (String.ofList
      (Slice.chars (Slice.place i text.toList.length).toNat l.toInt.toNat text.toList)) := by
  simp only [part, toInt_integer, pure_bind, fromEnd_eq ht, cut_eq]
  split
  · rfl
  · next h =>
    unfold Sized wordBound at ht
    have hroom : (min l.toInt (text.toList.length + -Slice.place i text.toList.length)).toNat =
        min l.toInt.toNat (text.toList.length - (Slice.place i text.toList.length).toNat) := by
          omega
    rw [sum_eq (by unfold IsWord wordBound; omega), pure_bind, hroom, Slice.chars_min]

theorem picks (send : Sender) : Picks send text where
  one i s hs hplace := by
    change part send text (.integer i) none = _
    rw [part_one ht, hplace, if_neg (by omega), Int.toNat_natCast, Slice.chars_one hs,
      String.singleton_eq_ofList]
  outside i h := by
    change part send text (.integer i) none = _
    rw [part_one ht, if_pos h]
  many i l s hs hplace hl := by
    refine ⟨_, Slice.isStretch_chars _ _ _, ?_⟩
    change part send text (.integer i) (some (.integer l)) = _
    rw [part_many ht, hplace, if_neg (by omega), Int.toNat_natCast]
  beyond i l h := by
    change part send text (.integer i) (some (.integer l)) = _
    rw [part_many ht, if_pos h]
  index v hregexp hstring := by
    rw [refer_eq_part hregexp hstring]
    rfl
  bounds v w hregexp hstring := by
    rw [refer_eq_part hregexp hstring]
    change part send text v (some w) = toInt send v >>= fun i => toInt send w >>= fun l =>
      part send text (.integer i) (some (.integer l))
    -- the place is counted without a fault, so it makes no odds when
    simp only [part, toInt_integer, pure_bind, fromEnd_eq ht]

end Sized

theorem lastMatch_after_refer (hd : m.Defines Builtin.definitions) (host : Host) (n : ℕ)
    (text : String) (hregexp : ∀ r, v ≠ .regexp r) (length : Option Value) :
    ((refer (sendWithin host n) text v length).after m).lastMatch = m.lastMatch := by
  have hmeets : (refer (sendWithin host n) text v length).Meets (.steady False) fun _ => True :=
    meets_refer (Contract.sends_steady host n False) (.inl trivial) trivial
      (fun r hr => absurd hr (hregexp r)) fun _ _ => trivial
  exact (hmeets.step_after hd).register.resolve_left id

/-- The integer forms of an index on a machine, and the messages that come to them. -/
structure Indexes (host : Host) (n : ℕ) (text : String) (m : Machine) : Prop
    extends Picks (sendWithin host (n + 1)) text where
  to_int : ∀ v, m.Knows v → ∃ m', m.Interns m' ∧
    toInt (sendWithin host (n + 1)) v m = Eval.ofExcept (m.heap.integerOf v) m'
  register : ∀ v length, (∀ r, v ≠ .regexp r) →
    ((refer (sendWithin host (n + 1)) text v length).after m).lastMatch = m.lastMatch
  sent : ∀ t : Str, t.text = text → ∀ name ∈ ["[]", "slice"], ∀ v (length : Option Value) keywords,
    Machine.reply host (n + 1) (.string t) name ⟨v :: length.toList, keywords⟩ m =
      refer (sendWithin host (n + 1)) text v length m.countHit.countHit

theorem reply_refer_eq (hd : m.Defines Builtin.definitions) (host : Host) (n : ℕ) (t : Str)
    {name : String} (hname : name ∈ ["[]", "slice"]) (v : Value) (length : Option Value)
    (keywords : Bool) : Machine.reply host n (.string t) name ⟨v :: length.toList, keywords⟩ m =
      refer (sendWithin host n) t.text v length m.countHit.countHit := by
  have hfound : ∀ name ∈ ["[]", "slice"],
      lastDefined Builtin.definitions "String" name = some (.builtin (.string .ref)) := by decide
  rw [hd.reply_string_eq (hfound name hname)]
  cases length <;> rfl

/-- With the built-in methods only, an index that is no regexp and no string picks characters by
number, one or many, in whatever form the numbers come. No text in memory has more characters than
64 bits can count. -/
theorem refer_indexes (hd : m.Defines Builtin.definitions) (ht : Sized text.toList.length)
    (host : Host) (n : ℕ) : Indexes host n text m where
  toPicks := picks ht _
  to_int _ hv := hd.toInt_eq host n hv
  register _ length hregexp := lastMatch_after_refer hd host (n + 1) text hregexp length
  sent := by
    rintro t rfl name hname v length keywords
    exact reply_refer_eq hd host (n + 1) t hname v length keywords

/-- The last but one character of a text, with one of two bytes on either side. -/
theorem refer_indexes_accented :
    refer (sendWithin Host.idle 1) "été" (.integer (-2)) none (Machine.build .standard) =
      newString "t" (Machine.build .standard) := by
  have hsized : Sized "été".toList.length := by
    unfold Sized
    decide
  have hindexes := refer_indexes (Machine.defines_build .standard) hsized Host.idle 0
  exact congrFun (hindexes.one (-2) 1 (by decide) (by decide)) _

end StringMethod

end LateBinding
