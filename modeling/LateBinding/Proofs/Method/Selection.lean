import LateBinding.Proofs.Method.Offset

/-! # Groups by way of a string and by way of its match

Looking for a regexp leaves the match, or `nil` without one, in the register. A group that a
selector picks from the string is the one that it picks from the match, converted by the same
messages and failing alike; only a name that the pattern does not have is an error of the string and
`nil` from the match.
-/

namespace LateBinding

open Eval

variable {m : Machine} {host : Host} {send : Sender} {n : ℕ} {r : Regexp} {t : Str} {found : Match}
  {v : Value} {g : String} {keywords : Bool}

namespace Machine

/-- What a search for a regexp comes to here: the first match under the next identity, if there is
one. -/
def firstMatch? (m : Machine) (r : Regexp) (text : String) : Option Match :=
  (Match.spans? r text 0).map fun groups => ⟨m.heap.next, r, text, groups⟩

def matching (m : Machine) (found : Match) : Machine :=
  { m with heap := m.heap.fresh.2, lastMatch := .matched found }

def unmatched (m : Machine) : Machine := { m with lastMatch := .nil }

theorem found_of_firstMatch? {text : String} (h : m.firstMatch? r text = some found) :
    found.Found := by
  obtain ⟨groups, hgroups, rfl⟩ := Option.map_eq_some_iff.mp h
  exact ⟨0, hgroups⟩

theorem Defines.matching (hd : m.Defines Builtin.definitions) (found : Match) :
    (m.matching found).Defines Builtin.definitions :=
  hd.extends (Frame.trans (Frame.heap m m.heap.fresh.2)
    (Frame.register { m with heap := m.heap.fresh.2 } _))

end Machine

def Value.selectorName? : Value → Option String
  | .string s => some s.text
  | .symbol s => some s.name
  | _ => none

namespace StringMethod

theorem lookFor_of_some {text : String} (h : m.firstMatch? r text = some found) :
    lookFor r text m = .ok (some found) (m.matching found) := by
  obtain ⟨groups, hgroups, rfl⟩ := Option.map_eq_some_iff.mp h
  unfold lookFor
  rw [hgroups]
  rfl

theorem lookFor_of_none {text : String} (h : m.firstMatch? r text = none) :
    lookFor r text m = .ok none m.unmatched := by
  unfold lookFor
  rw [Option.map_eq_none_iff.mp h]
  rfl

theorem refer_of_none {text : String} (h : m.firstMatch? r text = none) (selector : Option Value) :
    refer send text (.regexp r) selector m = .ok .nil m.unmatched := by
  unfold refer
  exact bind_of_ok (lookFor_of_none h)

theorem refer_of_some {text : String} (h : m.firstMatch? r text = some found)
    (selector : Option Value) : refer send text (.regexp r) selector m =
      (selectGroup send found selector >>= optionalString) (m.matching found) := by
  unfold refer
  exact bind_of_ok (lookFor_of_some h)

/-- Both ways to pick a group run the same conversions, in the same order. -/
theorem selectGroup_eq (hname : ∀ g, v.selectorName? = some g →
    (found.groupNamed? g).isSome = true) :
    selectGroup send found (some v) = MatchMethod.select send found v := by
  cases v with
  | string s => exact if_pos (hname s.text rfl)
  | symbol s => exact if_pos (hname s.name rfl)
  | _ => rfl

theorem selectGroup_of_undefined (hg : v.selectorName? = some g)
    (hname : found.groupNamed? g = none) :
    selectGroup send found (some v) = fail (.undefinedGroup g) := by
  have hfail : namedGroup found g = fail (.undefinedGroup g) := by
    unfold namedGroup
    rw [hname]
    rfl
  cases v with
  | string s =>
    obtain rfl := Option.some.inj hg
    exact hfail
  | symbol s =>
    obtain rfl := Option.some.inj hg
    exact hfail
  | _ => cases hg

end StringMethod

theorem MatchMethod.select_of_undefined (hg : v.selectorName? = some g)
    (hname : found.groupNamed? g = none) : select send found v = pure none := by
  have hnone : found.named? g = none := by
    unfold Match.named?
    rw [hname]
    rfl
  cases v with
  | string s =>
    obtain rfl := Option.some.inj hg
    exact congrArg pure hnone
  | symbol s =>
    obtain rfl := Option.some.inj hg
    exact congrArg pure hnone
  | _ => cases hg

namespace Machine

section Sent

variable (hd : m.Defines Builtin.definitions) (host : Host) (n : ℕ)

include hd

theorem Defines.reply_select_eq (found : Match) (v : Value) (keywords : Bool) :
    reply host n (.matched found) "[]" ⟨[v], keywords⟩ m =
      (MatchMethod.select (sendWithin host n) found v >>= optionalString) m.countHit.countHit := by
  have hfound : lastDefined Builtin.definitions (Value.matched found).className "[]" =
      some (.builtin (.matched .ref)) := by
    change lastDefined Builtin.definitions "MatchData" "[]" = _
    decide
  rw [hd.reply_found_eq (by simp) hfound]
  rfl

theorem Defines.reply_matchOffset_eq (t : Str) (v : Value) (keywords : Bool) :
    reply host n (.string t) "=~" ⟨[v], keywords⟩ m =
      StringMethod.matchOffset t.text v m.countHit.countHit := by
  have hfound : lastDefined Builtin.definitions "String" "=~" =
      some (.builtin (.string .search)) := by
    decide
  rw [hd.reply_string_eq hfound]
  rfl

end Sent

/-- What the messages that take a regexp answer when the search finds this match. -/
structure Finds (host : Host) (n : ℕ) (m : Machine) (r : Regexp) (t : Str) (found : Match) :
    Prop where
  offset : ∃ i, found.begin? 0 = some (some i) ∧ ∀ keywords,
    reply host n (.string t) "=~" ⟨[.regexp r], keywords⟩ m =
      .ok (count i) (m.matching found).countHit.countHit
  whole : ∀ name ∈ ["[]", "slice"], ∀ keywords,
    reply host n (.string t) name ⟨[.regexp r], keywords⟩ m =
      newString found.matched (m.matching found).countHit.countHit
  selected : ∀ name ∈ ["[]", "slice"], ∀ v keywords keywords',
    (∀ g, v.selectorName? = some g → (found.groupNamed? g).isSome = true) →
      reply host n (.string t) name ⟨[.regexp r, v], keywords⟩ m =
        reply host n (.matched found) "[]" ⟨[v], keywords'⟩ (m.matching found)
  undefined : ∀ name ∈ ["[]", "slice"], ∀ v g keywords keywords', v.selectorName? = some g →
    found.groupNamed? g = none →
      (∃ e, e.kind = .argument ∧ reply host n (.string t) name ⟨[.regexp r, v], keywords⟩ m =
        .error (.error e) (m.matching found).countHit.countHit) ∧
      reply host n (.matched found) "[]" ⟨[v], keywords'⟩ (m.matching found) =
        .ok .nil (m.matching found).countHit.countHit

/-- What the messages that take a regexp answer, and what they leave in the register whatever they
come to. -/
structure Searches (host : Host) (n : ℕ) (m : Machine) (r : Regexp) (t : Str) : Prop where
  register_part : ∀ name ∈ ["[]", "slice"], ∀ (selector : Option Value) keywords,
    (after (reply host n (.string t) name ⟨.regexp r :: selector.toList, keywords⟩) m).lastMatch =
      (m.firstMatch? r t.text).elim Value.nil .matched
  register_offset : ∀ keywords,
    (after (reply host n (.string t) "=~" ⟨[.regexp r], keywords⟩) m).lastMatch =
      (m.firstMatch? r t.text).elim Value.nil .matched
  missed_part : m.firstMatch? r t.text = none →
    ∀ name ∈ ["[]", "slice"], ∀ (selector : Option Value) keywords,
    reply host n (.string t) name ⟨.regexp r :: selector.toList, keywords⟩ m =
      .ok .nil m.unmatched.countHit.countHit
  missed_offset : m.firstMatch? r t.text = none → ∀ keywords,
    reply host n (.string t) "=~" ⟨[.regexp r], keywords⟩ m = .ok .nil m.unmatched.countHit.countHit
  found : ∀ found, m.firstMatch? r t.text = some found → Finds host n m r t found

section Sent

variable (hd : m.Defines Builtin.definitions) (host : Host) (n : ℕ)

include hd

theorem Defines.part_of_none (h : m.firstMatch? r t.text = none) {name : String}
    (hname : name ∈ ["[]", "slice"]) (selector : Option Value) (keywords : Bool) :
    reply host n (.string t) name ⟨.regexp r :: selector.toList, keywords⟩ m =
      .ok .nil m.unmatched.countHit.countHit := by
  have hhere : m.countHit.countHit.firstMatch? r t.text = none := h
  rw [StringMethod.reply_refer_eq hd host n t hname]
  exact StringMethod.refer_of_none hhere selector

theorem Defines.part_of_some (h : m.firstMatch? r t.text = some found) {name : String}
    (hname : name ∈ ["[]", "slice"]) (selector : Option Value) (keywords : Bool) :
    reply host n (.string t) name ⟨.regexp r :: selector.toList, keywords⟩ m =
      (StringMethod.selectGroup (sendWithin host n) found selector >>= optionalString)
        (m.matching found).countHit.countHit := by
  have hhere : m.countHit.countHit.firstMatch? r t.text = some found := h
  rw [StringMethod.reply_refer_eq hd host n t hname]
  exact StringMethod.refer_of_some hhere selector

theorem Defines.offset_of_none (h : m.firstMatch? r t.text = none) (keywords : Bool) :
    reply host n (.string t) "=~" ⟨[.regexp r], keywords⟩ m =
      .ok .nil m.unmatched.countHit.countHit := by
  have hhere : m.countHit.countHit.firstMatch? r t.text = none := h
  rw [hd.reply_matchOffset_eq]
  exact bind_of_ok (StringMethod.lookFor_of_none hhere)

theorem Defines.offset_of_some (h : m.firstMatch? r t.text = some found) :
    ∃ i, found.begin? 0 = some (some i) ∧
    ∀ keywords, reply host n (.string t) "=~" ⟨[.regexp r], keywords⟩ m =
      .ok (count i) (m.matching found).countHit.countHit := by
  have hhere : m.countHit.countHit.firstMatch? r t.text = some found := h
  obtain ⟨pre, post, -, -, -, hbegin⟩ := (found_of_firstMatch? h).placed.parts
  refine ⟨_, hbegin, fun keywords => ?_⟩
  rw [hd.reply_matchOffset_eq]
  refine (bind_of_ok (StringMethod.lookFor_of_some hhere)).trans ?_
  dsimp only
  rw [hbegin]
  rfl

/-- After the search nothing sets the register, however the conversion of the selector ends. -/
theorem Defines.register_of_some (h : m.firstMatch? r t.text = some found) {name : String}
    (hname : name ∈ ["[]", "slice"]) (selector : Option Value) (keywords : Bool) :
    (after (reply host n (.string t) name ⟨.regexp r :: selector.toList, keywords⟩) m).lastMatch =
      .matched found := by
  have hd' : (m.matching found).countHit.countHit.Defines Builtin.definitions :=
    (hd.matching found).extends (extends_countHit_countHit _)
  have hmeets :
      (StringMethod.selectGroup (sendWithin host n) found selector >>= optionalString).Meets
      (.steady False) fun _ => True :=
    (StringMethod.meets_selectGroup (Contract.sends_steady host n False) (.inl trivial)
      fun _ _ => trivial).bind fun _ _ => (meets_optionalString _).imp fun _ _ => trivial
  have hregister := (hmeets.step_after hd').register.resolve_left id
  unfold after at hregister ⊢
  rwa [hd.part_of_some host n h hname]

/-- With the built-in methods only, a string and the match that a search leaves in the register pick
the same groups. -/
theorem Defines.searches (r : Regexp) (t : Str) : Searches host n m r t where
  register_part name hname selector keywords := by
    cases h : m.firstMatch? r t.text with
    | none => rw [after_of_ok (hd.part_of_none host n h hname selector keywords)]; rfl
    | some found => exact hd.register_of_some host n h hname selector keywords
  register_offset keywords := by
    cases h : m.firstMatch? r t.text with
    | none => rw [after_of_ok (hd.offset_of_none host n h keywords)]; rfl
    | some found =>
      obtain ⟨i, -, hreply⟩ := hd.offset_of_some host n h
      rw [after_of_ok (hreply keywords)]
      rfl
  missed_part h name hname := hd.part_of_none host n h hname
  missed_offset h := hd.offset_of_none host n h
  found found h := {
    offset := hd.offset_of_some host n h
    whole := by
      intro name hname keywords
      obtain ⟨s, hs⟩ := (found_of_firstMatch? h).placed.whole
      obtain ⟨a, b, -, -, -, hget⟩ := (found_of_firstMatch? h).placed.exists_chars hs
      refine (hd.part_of_some host n h hname none keywords).trans ?_
      unfold StringMethod.selectGroup Match.matched
      rw [hget]
      rfl
    selected := by
      intro name hname v keywords keywords' hdefined
      refine (hd.part_of_some host n h hname (some v) keywords).trans ?_
      rw [StringMethod.selectGroup_eq hdefined, (hd.matching found).reply_select_eq]
    undefined := by
      intro name hname v g keywords keywords' hg hundefined
      refine ⟨⟨.undefinedGroup g, rfl, ?_⟩, ?_⟩
      · refine (hd.part_of_some host n h hname (some v) keywords).trans ?_
        rw [StringMethod.selectGroup_of_undefined hg hundefined]
        rfl
      · rw [(hd.matching found).reply_select_eq, MatchMethod.select_of_undefined hg hundefined]
        rfl }

end Sent

def twoGroups : Regexp := ⟨0, "(?P<twice>l+)(x)?"⟩

theorem searches_twoGroups : ∃ found, (build .standard).firstMatch? twoGroups "hello" = some found ∧
    (∃ m', reply Host.idle 0 (.string ⟨0, "hello"⟩) "=~" ⟨[.regexp twoGroups], false⟩
      (build .standard) = .ok (count 2) m' ∧ m'.lastMatch = .matched found) ∧
    reply Host.idle 0 (.string ⟨0, "hello"⟩) "[]" ⟨[.regexp twoGroups, .string ⟨1, "twice"⟩], false⟩
        (build .standard) =
      reply Host.idle 0 (.matched found) "[]" ⟨[.string ⟨1, "twice"⟩], false⟩
        ((build .standard).matching found) := by
  have hspans : Match.spans? twoGroups "hello" 0 = some [some ⟨2, 4⟩, some ⟨2, 4⟩, none] := by
    decide
  have hfirst : (build .standard).firstMatch? twoGroups "hello" =
      some ⟨(build .standard).heap.next, twoGroups, "hello", [some ⟨2, 4⟩, some ⟨2, 4⟩, none]⟩ := by
    unfold firstMatch?
    rw [hspans]
    rfl
  have hfinds :=
    ((defines_build .standard).searches Host.idle 0 twoGroups ⟨0, "hello"⟩).found _ hfirst
  obtain ⟨i, hi, hoffset⟩ := hfinds.offset
  refine ⟨_, hfirst, ⟨((build .standard).matching _).countHit.countHit, ?_, rfl⟩,
    hfinds.selected "[]" (by simp) _ _ _ ?_⟩
  · have hbegin : Match.begin? ⟨(build .standard).heap.next, twoGroups, "hello",
        [some ⟨2, 4⟩, some ⟨2, 4⟩, none]⟩ 0 = some (some 2) := rfl
    obtain rfl := Option.some.inj (Option.some.inj (hi.symm.trans hbegin))
    exact hoffset false
  · rintro g ⟨⟩
    unfold Match.groupNamed?
    decide

end Machine

end LateBinding
