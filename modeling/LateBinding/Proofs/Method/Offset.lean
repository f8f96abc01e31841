import LateBinding.Proofs.Method.Part
import LateBinding.Proofs.Pattern.Search

/-! # Offsets of matches

The groups of a match stand in its subject between characters. The offset of a group and the number
of its characters, taken for an index and a length, lead back to the text of the group, however many
bytes the characters take.
-/

namespace LateBinding

open Eval

def Span.Fits (s : Span) (cs : List Char) : Prop :=
  ∃ a b, a ≤ b ∧ b ≤ cs.length ∧ s = ⟨Match.byteOffset cs a, Match.byteOffset cs b⟩

namespace Match

variable {m : Match} {i : ℕ} {s : Span} {cs : List Char}

/-- The groups that took part fit the subject, and the whole match is one of them. -/
structure Placed (m : Match) : Prop where
  fits : ∀ s, some s ∈ m.groups → s.Fits m.subject.toList
  whole : ∃ s, m.span? 0 = some s

theorem byteOffset_min (cs : List Char) (n : ℕ) :
    byteOffset cs (min n cs.length) = byteOffset cs n := by
  rw [byteOffset, byteOffset, ← List.take_take, List.take_length]

theorem fits_of_le {a b : ℕ} (h : a ≤ b) : Span.Fits ⟨byteOffset cs a, byteOffset cs b⟩ cs :=
  ⟨min a cs.length, min b cs.length, by omega, by omega, by rw [byteOffset_min, byteOffset_min]⟩

/-- Matches are made by searches, so this holds of all there are. -/
theorem Found.placed (hm : m.Found) : m.Placed := by
  obtain ⟨start, hspans⟩ := hm
  unfold spans? at hspans
  split at hspans
  · cases hspans
  · obtain ⟨groups, hsearch, hgroups⟩ := Option.map_eq_some_iff.mp hspans
    obtain ⟨hle, a, b, hwhole⟩ := Pattern.spans_of_search hsearch
    constructor
    · intro s hs
      rw [← hgroups] at hs
      obtain ⟨group, hgroup, hs⟩ := List.mem_map.mp hs
      obtain ⟨⟨a, b⟩, rfl, rfl⟩ := Option.map_eq_some_iff.mp hs
      exact fits_of_le (hle a b hgroup)
    · refine ⟨⟨byteOffset m.subject.toList a, byteOffset m.subject.toList b⟩, ?_⟩
      rw [span?, ← hgroups, List.getElem?_map, hwhole]
      rfl

theorem between?_byteOffset {a b : ℕ} (h : a ≤ b) :
    Slice.between? (byteOffset cs a) (byteOffset cs b) cs = some (Slice.chars a (b - a) cs) := by
  have hstop : cs.take b = cs.take a ++ (cs.drop a).take (b - a) := by
    rw [← List.take_add, Nat.add_sub_cancel' h]
  have hsplit := Slice.between?_append (cs.take a) ((cs.drop a).take (b - a))
    ((cs.drop a).drop (b - a))
  rwa [List.take_append_drop, List.take_append_drop, ← hstop] at hsplit

theorem Placed.exists_chars (hm : m.Placed) (hs : m.span? i = some s) :
    ∃ a b, a ≤ b ∧ b ≤ m.subject.toList.length ∧ m.begin? i = some (some a) ∧
      m.get? i = some (String.ofList (Slice.chars a (b - a) m.subject.toList)) := by
  have hmem : some s ∈ m.groups := List.mem_of_getElem? (Option.join_eq_some_iff.mp hs)
  obtain ⟨a, b, hle, hb, rfl⟩ := hm.fits s hmem
  refine ⟨a, b, hle, hb, ?_, ?_⟩
  · rw [begin?, hs]
    dsimp only
    rw [before?_byteOffset, Option.map_some, List.length_take, Nat.min_eq_left (hle.trans hb)]
  · rw [get?, hs, Option.bind_some, between?_byteOffset hle, Option.map_some]

theorem Placed.parts (hm : m.Placed) : ∃ pre post, m.pre? = some pre ∧ m.post? = some post ∧
    pre ++ m.matched ++ post = m.subject ∧ m.begin? 0 = some (some pre.toList.length) := by
  obtain ⟨s, hs⟩ := hm.whole
  obtain ⟨a, b, hle, hb, rfl⟩ := hm.fits s (List.mem_of_getElem? (Option.join_eq_some_iff.mp hs))
  refine ⟨String.ofList (m.subject.toList.take a), String.ofList (m.subject.toList.drop b),
    ?_, ?_, ?_, ?_⟩
  · rw [pre?, hs]
    dsimp only
    rw [before?_byteOffset, Option.map_some]
  · rw [post?, hs]
    dsimp only
    rw [after?_byteOffset, Option.map_some]
  · rw [matched, get?, hs, Option.bind_some, between?_byteOffset hle]
    have hsubject : m.subject.toList.take a ++ Slice.chars a (b - a) m.subject.toList ++
        m.subject.toList.drop b = m.subject.toList := by
      rw [Slice.chars, ← List.take_add, Nat.add_sub_cancel' hle, List.take_append_drop]
    rw [Option.map_some, Option.getD_some, ← String.ofList_append, ← String.ofList_append, hsubject,
      String.ofList_toList]
  · rw [begin?, hs]
    dsimp only
    rw [before?_byteOffset, Option.map_some, String.toList_ofList]

theorem Placed.present (hm : m.Placed) (i : ℕ) :
    ∃ found, m.begin? i = some found ∧ found.isSome = (m.get? i).isSome := by
  cases hs : m.span? i with
  | none => exact ⟨none, by rw [begin?, hs], by rw [get?, hs]; rfl⟩
  | some s =>
    obtain ⟨a, b, -, -, hbegin, hget⟩ := hm.exists_chars hs
    exact ⟨some a, hbegin, by rw [hget]; rfl⟩

end Match

namespace StringMethod

theorem toInt_count {n : ℕ} (hn : Sized n) : (Int64.ofInt n).toInt = n := by
  have hbound : n < wordBound := hn
  rw [Int64.ofInt_eq_ofNat]
  exact Int64.toInt_ofNat_of_lt hbound

theorem refer_chars {text : String} (ht : Sized text.toList.length) (send : Sender) {a n : ℕ}
    (h : a + n ≤ text.toList.length) :
    refer send text (count a) (some (count n)) =
      newString (String.ofList (Slice.chars a n text.toList)) := by
  have ha : (Int64.ofInt a).toInt = a := toInt_count (lt_of_le_of_lt (by omega) ht)
  have hn : (Int64.ofInt n).toInt = n := toInt_count (lt_of_le_of_lt (by omega) ht)
  have hplace : Slice.place (Int64.ofInt a) text.toList.length = a := by
    rw [Slice.place, ha, if_pos (Int.natCast_nonneg a)]
  change part send text (.integer (Int64.ofInt a)) (some (.integer (Int64.ofInt n))) = _
  rw [part_many ht, hplace, hn, if_neg (by omega), Int.toNat_natCast, Int.toNat_natCast]

end StringMethod

namespace Match

variable {m : Match}

/-- What the offsets of a match have to do with the texts of its groups. -/
structure Offsets (m : Match) : Prop where
  parts : ∃ pre post, m.pre? = some pre ∧ m.post? = some post ∧
    pre ++ m.matched ++ post = m.subject ∧
    m.begin? 0 = some (some pre.toList.length)
  present : ∀ i, ∃ found, m.begin? i = some found ∧ found.isSome = (m.get? i).isSome
  refer : ∀ i text, m.get? i = some text → ∃ n, m.begin? i = some (some n) ∧ ∀ send,
    StringMethod.refer send m.subject (count n) (some (count text.toList.length)) = newString text

/-- The offset of a group that took part, with the number of its characters, picks the text of the
group out of the subject. No text in memory has more characters than 64 bits can count. -/
theorem Placed.offsets_agree (hm : m.Placed) (hsized : Sized m.subject.toList.length) :
    m.Offsets where
  parts := hm.parts
  present := hm.present
  refer i text htext := by
    cases hs : m.span? i with
    | none =>
      rw [get?, hs] at htext
      cases htext
    | some s =>
      obtain ⟨a, b, hle, hb, hbegin, hget⟩ := hm.exists_chars hs
      obtain rfl := Option.some.inj (hget.symm.trans htext)
      refine ⟨a, hbegin, fun send => ?_⟩
      have hlength : (Slice.chars a (b - a) m.subject.toList).length = b - a := by
        rw [Slice.chars, List.length_take, List.length_drop]
        omega
      rw [String.toList_ofList, hlength]
      exact StringMethod.refer_chars hsized send (by omega)

/-- A match with characters of one, two and three bytes, a group that took no part, and an empty one
at the end. -/
def accented : Match :=
  ⟨0, ⟨0, "(é+)(x)?€()"⟩, "aéé€", [some ⟨1, 8⟩, some ⟨1, 5⟩, none, some ⟨8, 8⟩]⟩

theorem found_accented : accented.Found := ⟨0, by decide⟩

theorem offsets_agree_accented :
    accented.begin? 1 = some (some 1) ∧ accented.begin? 2 = some none ∧
      StringMethod.refer (sendWithin Host.idle 1) "aéé€" (count 1) (some (count 2)) =
        newString "éé" := by
  have hsized : Sized accented.subject.toList.length := by
    unfold Sized
    decide
  have hoffsets : accented.Offsets := Placed.offsets_agree found_accented.placed hsized
  obtain ⟨n, hn, hrefer⟩ := hoffsets.refer 1 "éé" (by decide)
  have hbegin : accented.begin? 1 = some (some 1) := by decide
  obtain rfl := Option.some.inj (Option.some.inj (hn.symm.trans hbegin))
  exact ⟨hbegin, by decide, hrefer _⟩

end Match

end LateBinding
