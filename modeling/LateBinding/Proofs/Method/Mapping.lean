import LateBinding.Proofs.Machine.Effect
import LateBinding.Proofs.Method.Likeness
import LateBinding.Proofs.Storing
import LateBinding.Proofs.Value.Unchanged
import Mathlib.Logic.Function.Basic

/-! # Hashes as ordered maps

The record of a hash is the list of pairs that it was built from and that were stored in it later.
As long as the keys stay as they are, the hash holds the keys that came first, in their order, each
with the value that came last. Equality is an equivalence of these keys since the hashes inside them
were made in the same way.
-/

namespace LateBinding

open Eval

variable {m m' : Machine} {host : Host} {n r q : ℕ} {h h' : Heap} {k v : Value}
  {stored pairs : List (Value × Value)}

/-- The pairs that were stored in the hashes that are kept track of, each in order. -/
abbrev Records := ℕ → Option (List (Value × Value))

def Records.Holds (records : Records) (k : Value) : Prop :=
  ∃ r stored, records r = some stored ∧ k ∈ stored.map Prod.fst

variable {records records' : Records}

theorem Records.holds_update (hk : Records.Holds (Function.update records r (some stored)) k) :
    records.Holds k ∨ k ∈ stored.map Prod.fst := by
  obtain ⟨q, others, hq, hmem⟩ := hk
  by_cases hqr : q = r
  · rw [hqr, Function.update_self] at hq
    exact .inr (Option.some.inj hq ▸ hmem)
  · rw [Function.update_of_ne hqr] at hq
    exact .inl ⟨q, others, hq, hmem⟩

namespace Heap

/-- The value has no cycles, and the hashes inside it are kept track of. -/
structure Keyable (h : Heap) (records : Records) (v : Value) : Prop where
  nested : h.Nested v
  recorded : ∀ r, h.Inside (.hash r) v → (records r).isSome

theorem Keyable.of_parts (stored : h.Stored v) (recorded : ∀ r, v = .hash r → (records r).isSome)
    (parts : ∀ p ∈ h.parts v, h.Keyable records p) : h.Keyable records v where
  nested := .intro stored fun p hp => (parts p hp).nested
  recorded r hr := by
    rcases Relation.ReflTransGen.cases_tail hr with heq | ⟨p, hrp, hp⟩
    · exact recorded r heq
    · exact (parts p hp).recorded r hrp

theorem Keyable.of_flat (hv : v.isContainer = false) : h.Keyable records v := by
  refine .of_parts (FitsIn.sound (n := 0) hv).nested.stored ?_ ?_
  · rintro r rfl
    cases hv
  · simp [parts_of_flat hv]

theorem Grows.sameAt (hg : h.Grows h') {c : Value} (hc : h.Stored c) : h.SameAt h' c := by
  cases c with
  | array r => exact Array.getElem?_of_prefix hg.arrays hc
  | hash r => exact Array.getElem?_of_prefix hg.hashes hc
  | _ => trivial

theorem Writes.sameAt {receiver c : Value} {name : String} {args : Args}
    (hw : h.Writes receiver name args h') (hc : c ≠ receiver) : h.SameAt h' c := by
  cases hw with
  | @push r _ _ hname =>
    cases c with
    | array q =>
      have hne : r ≠ q := fun heq => hc (heq ▸ rfl)
      exact Array.getElem?_setIfInBounds_ne hne
    | hash q => rfl
    | _ => trivial
  | store => exact sameAt_setHash hc
  | assign hne => cases c <;> trivial

theorem Writes.name_of_hash {name : String} {args : Args} (hw : h.Writes (.hash r) name args h') :
    name = "[]=" := by
  cases hw
  rfl

theorem equates_eql : Entries.Equates h.eql h.Sound :=
  ⟨fun _ => eql_self, Sound.eql_symm, Sound.eql_trans⟩

theorem gather_eql (hkeys : ∀ k ∈ stored.map Prod.fst, h.Sound k ∧ h.Unchanged h' k) :
    Entries.gather h'.eql stored = Entries.gather h.eql stored := by
  refine Entries.gather_congr fun a ha b hb => ?_
  obtain ⟨hsound, hsame⟩ := hkeys a ha
  obtain ⟨hsound', hsame'⟩ := hkeys b hb
  exact hsame.eql_eq hsame' hsound.nested hsound'.nested

theorem hashOf?_eq (hkeys : ∀ d ∈ pairs, h.Nested d.1) :
    h.hashOf? pairs = some (h.newHash (Entries.gather h.eql pairs)) := by
  have hfold : pairs.foldlM (fun entries d => h.insert? none d.1 d.2 entries) [] =
      some (Entries.gather h.eql pairs) := by
    induction pairs using List.reverseRecOn with
    | nil => rfl
    | append_singleton pairs d ih =>
      have hstored : ∀ e ∈ Entries.gather h.eql pairs, h.Nested e.1 := by
        intro e he
        obtain ⟨f, hf, hkey⟩ := List.mem_map.mp (Entries.mem_keys_gather (List.mem_map_of_mem he))
        exact hkey ▸ hkeys f (List.mem_append_left _ hf)
      have hlast : h.insert? none d.1 d.2 _ = _ :=
        (hkeys d (by simp)).insert? hstored (by simp) (by simp) d.2
      rw [List.foldlM_append, ih fun e he => hkeys e (List.mem_append_left _ he),
        Entries.gather_concat]
      simpa using hlast
  change (pairs.foldlM (fun entries d => h.insert? none d.1 d.2 entries) [] >>= fun entries =>
    pure (h.newHash entries)) = _
  rw [hfold]
  rfl

end Heap

/-- Each hash that is kept track of holds what its pairs come to. -/
structure Kept (records : Records) (h : Heap) : Prop where
  sound : ∀ k, records.Holds k → h.Sound k
  held : ∀ r stored, records r = some stored → h.Stored (.hash r)
  entries : ∀ r stored, records r = some stored → h.hash r = Entries.gather h.eql stored

namespace Kept

theorem start (h : Heap) : Kept (fun _ => none) h where
  sound k hk := by
    obtain ⟨_, _, hr, -⟩ := hk
    cases hr
  held _ _ hr := nomatch hr
  entries _ _ hr := nomatch hr

theorem of_unchanged (hkeys : ∀ k, records.Holds k → h.Sound k ∧ h.Unchanged h' k)
    (hentries : ∀ r stored, records r = some stored →
      h'.Stored (.hash r) ∧ h'.hash r = Entries.gather h.eql stored) : Kept records h' where
  sound k hk := (hkeys k hk).2.sound (hkeys k hk).1
  held r stored hr := (hentries r stored hr).1
  entries r stored hr := by
    rw [(hentries r stored hr).2, Heap.gather_eql fun k hk => hkeys k ⟨r, stored, hr, hk⟩]

variable (hkept : Kept records h)

include hkept

theorem sound_key (hr : records r = some stored) : ∀ d ∈ stored, h.Sound d.1 :=
  fun _ hd => hkept.sound _ ⟨r, stored, hr, List.mem_map_of_mem hd⟩

theorem sound_of_keyable (hv : h.Keyable records v) : h.Sound v := by
  refine hv.nested.sound fun r hr => ?_
  obtain ⟨stored, hstored⟩ := Option.isSome_iff_exists.mp (hv.recorded r hr)
  rw [hkept.entries r stored hstored]
  exact (Heap.equates_eql.pairwise_gather (hkept.sound_key hstored)).imp And.left

theorem update
    (hkeys : ∀ k, records.Holds k ∨ k ∈ stored.map Prod.fst → h.Sound k ∧ h.Unchanged h' k)
    (hothers : ∀ q, q ≠ r → h.Stored (.hash q) → h.SameAt h' (.hash q))
    (hself : h'.Stored (.hash r) ∧ h'.hash r = Entries.gather h.eql stored) :
    Kept (Function.update records r (some stored)) h' := by
  apply of_unchanged (h := h)
  · exact fun k hk => hkeys k (Records.holds_update hk)
  · intro q others hq
    by_cases hqr : q = r
    · subst hqr
      rw [Function.update_self] at hq
      obtain rfl := Option.some.inj hq
      exact hself
    · rw [Function.update_of_ne hqr] at hq
      have hold := hkept.held q others hq
      have hsame := hothers q hqr hold
      exact ⟨hsame.stored hold, hsame.hash_eq.trans (hkept.entries q others hq)⟩

theorem build (hkeys : ∀ d ∈ pairs, h.Keyable records d.1)
    (hmade : h.hashOf? pairs = some (r, h')) :
    Kept (Function.update records r (some pairs)) h' := by
  rw [Heap.hashOf?_eq fun d hd => (hkeys d hd).nested] at hmade
  obtain ⟨rfl, rfl⟩ := Prod.mk.inj (Option.some.inj hmade)
  apply hkept.update
  · intro k hk
    have hsound : h.Sound k := by
      rcases hk with hk | hk
      · exact hkept.sound k hk
      · obtain ⟨d, hd, rfl⟩ := List.mem_map.mp hk
        exact hkept.sound_of_keyable (hkeys d hd)
    exact ⟨hsound, Heap.unchanged_newHash hsound.nested⟩
  · exact fun q _ hold => Heap.sameAt_newHash hold
  · refine ⟨?_, congrArg (Option.getD · []) Array.getElem?_push_size⟩
    change h.hashes.size < (h.hashes.push _).size
    rw [Array.size_push]
    exact Nat.lt_succ_self _

theorem holds_of_mem_hash (hr : records r = some stored) {e : Value × Value} (he : e ∈ h.hash r) :
    records.Holds e.1 := by
  rw [hkept.entries r stored hr] at he
  exact ⟨r, stored, hr, Entries.mem_keys_gather (List.mem_map_of_mem he)⟩

theorem stored?_eq {key : Value} (hr : records r = some stored) (hkey : h.Keyable records key)
    (hout : ∀ k, k = key ∨ records.Holds k → ¬ h.Inside (.hash r) k) (value : Value) :
    h.stored? r key value = some (Entries.put (h.eql key) key value (h.hash r)) :=
  hkey.nested.stored? (fun _ he => (hkept.sound _ (hkept.holds_of_mem_hash hr he)).nested)
    (hout key (.inl rfl)) (fun _ he => hout _ (.inr (hkept.holds_of_mem_hash hr he))) value

theorem store {key value : Value} (hr : records r = some stored) (hkey : h.Keyable records key)
    (hout : ∀ k, k = key ∨ records.Holds k → ¬ h.Inside (.hash r) k) :
    Kept (Function.update records r (some (stored ++ [(key, value)])))
      (h.setHash r (Entries.put (h.eql key) key value (h.hash r))) := by
  apply hkept.update
  · intro k hk
    have hcases : k = key ∨ records.Holds k := by
      rcases hk with hk | hk
      · exact .inr hk
      · rw [List.map_append, List.mem_append, List.map_singleton, List.mem_singleton] at hk
        exact hk.symm.imp_right fun hk => ⟨r, stored, hr, hk⟩
    refine ⟨?_, Heap.unchanged_setHash (hout k hcases)⟩
    rcases hcases with rfl | hk
    · exact hkept.sound_of_keyable hkey
    · exact hkept.sound k hk
  · exact fun q hqr _ => Heap.sameAt_setHash (by simpa using hqr)
  · have hold : r < h.hashes.size := hkept.held r stored hr
    constructor
    · change r < (h.hashes.setIfInBounds r _).size
      rwa [Array.size_setIfInBounds]
    · rw [Heap.hash_setHash hold, hkept.entries r stored hr, Entries.gather_concat]

theorem other (hremain : ∀ r stored, records' r = some stored →
      records r = some stored ∧ h.SameAt h' (.hash r))
    (hkeys : ∀ k, records'.Holds k → h.Unchanged h' k) : Kept records' h' := by
  refine of_unchanged (h := h) (fun k hk => ⟨?_, hkeys k hk⟩) fun q others hq => ?_
  · obtain ⟨q, others, hq, hmem⟩ := hk
    exact hkept.sound k ⟨q, others, (hremain q others hq).1, hmem⟩
  · obtain ⟨hold, hsame⟩ := hremain q others hq
    exact ⟨hsame.stored (hkept.held q others hold),
      hsame.hash_eq.trans (hkept.entries q others hold)⟩

end Kept

namespace HashMethod

variable {key : Value} {found : Option Value}

theorem run_ref (h : m.heap.hashGet? r key = some found) (keywords : Bool) :
    ref.run (.hash r) ⟨[key], keywords⟩ m = .ok (found.getD .nil) m := by
  have hfound : (do orEndless ((← heap).hashGet? r key) : Eval _) m = .ok found m := by
    change orEndless (m.heap.hashGet? r key) m = _
    rw [h]
    rfl
  exact bind_of_ok hfound

theorem run_hasKey (h : m.heap.hashGet? r key = some found) (keywords : Bool) :
    hasKey.run (.hash r) ⟨[key], keywords⟩ m = .ok (.bool found.isSome) m := by
  have hfound : (do orEndless ((← heap).hashGet? r key) : Eval _) m = .ok found m := by
    change orEndless (m.heap.hashGet? r key) m = _
    rw [h]
    rfl
  exact bind_of_ok hfound

end HashMethod

namespace Machine

/-- The methods of hashes are the built-in ones, whatever else is defined. -/
def KeepsHashes (m : Machine) : Prop :=
  ∃ defs, m.Defines defs ∧ ∀ d ∈ Builtin.hashMethods, lastDefined defs "Hash" d.1 =
    some (.builtin (.hash d.2))

theorem hash_definitions : ∀ d ∈ Builtin.hashMethods,
    lastDefined Builtin.definitions "Hash" d.1 = some (.builtin (.hash d.2)) := by
  decide

theorem Defines.keepsHashes (hd : m.Defines Builtin.definitions) : m.KeepsHashes :=
  ⟨_, hd, hash_definitions⟩

theorem KeepsHashes.extends (hm : m.KeepsHashes) (h : m.Extends m') : m'.KeepsHashes := by
  obtain ⟨defs, hd, hfound⟩ := hm
  exact ⟨defs, hd.extends h, hfound⟩

namespace KeepsHashes

variable (hm : m.KeepsHashes)

include hm

theorem reply_eq {name : String} {k : HashMethod} (hk : (name, k) ∈ Builtin.hashMethods)
    (args : Args) :
    reply host n (.hash r) name args m = k.run (.hash r) args m.countHit.countHit := by
  obtain ⟨defs, hd, hfound⟩ := hm
  have hreceiver : ∀ o, Value.hash r ≠ .object o := nofun
  exact hd.reply_found_eq hreceiver (hfound _ hk)

theorem reply_store_eq {key value : Value} {entries : List (Value × Value)}
    (hstored : m.heap.stored? r key value = some entries) (keywords : Bool) :
    reply host n (.hash r) "[]=" ⟨[key, value], keywords⟩ m =
      .ok value { m.countHit.countHit with heap := m.heap.setHash r entries } := by
  rw [hm.reply_eq (k := .set) (by decide)]
  exact HashMethod.run_set (m := m.countHit.countHit) hstored keywords

end KeepsHashes

end Machine

open Machine

/-- Hashes are built from pairs, and pairs are stored in them by sends. The keys have no cycles, and
they stay as they are: a hash with a key that is going to be written in has to be given up
before. -/
inductive Stores (host : Host) : Machine → Records → Prop
  | start {m : Machine} (hashes : m.KeepsHashes) : Stores host m fun _ => none
  | build {m : Machine} {records : Records} {pairs : List (Value × Value)} {r : ℕ} {h : Heap}
      (before : Stores host m records) (keyable : ∀ d ∈ pairs, m.heap.Keyable records d.1)
      (made : m.heap.hashOf? pairs = some (r, h)) :
      Stores host { m with heap := h } (Function.update records r (some pairs))
  | store {m : Machine} {records : Records} {stored : List (Value × Value)} {r n : ℕ}
    {key value : Value}
      {keywords : Bool} (before : Stores host m records) (recorded : records r = some stored)
      (keyable : m.heap.Keyable records key)
      (outside : ∀ k, k = key ∨ records.Holds k → ¬ m.heap.Inside (.hash r) k) :
      Stores host (after (reply host n (.hash r) "[]=" ⟨[key, value], keywords⟩) m)
        (Function.update records r (some (stored ++ [(key, value)])))
  | other {m m' : Machine} {records records' : Records} (before : Stores host m records)
      (hashes : m'.KeepsHashes) (remain : ∀ r stored, records' r = some stored →
        records r = some stored ∧ m.heap.SameAt m'.heap (.hash r))
      (unchanged : ∀ k, records'.Holds k → m.heap.Unchanged m'.heap k) : Stores host m' records'

namespace Stores

theorem hashes_and_kept (hs : Stores host m records) : m.KeepsHashes ∧ Kept records m.heap := by
  induction hs with
  | start hashes => exact ⟨hashes, .start _⟩
  | build before keyable made ih => exact ⟨ih.1.extends (Frame.heap _ _), ih.2.build keyable made⟩
  | @store m _ _ _ _ _ _ _ before recorded keyable outside ih =>
    rw [after_of_ok (ih.1.reply_store_eq (ih.2.stored?_eq recorded keyable outside _) _)]
    refine ⟨ih.1.extends ?_, ih.2.store recorded keyable outside⟩
    exact Frame.trans m.extends_countHit_countHit (Frame.heap _ _)
  | other before hashes remain unchanged ih => exact ⟨hashes, ih.2.other remain unchanged⟩

/-- With the built-in methods only, a send does nothing to the hashes that are kept track of unless
it stores in one or its receiver is inside a key. -/
theorem reply (hs : Stores host m records) (hd : m.Defines Builtin.definitions) {receiver : Value}
    {name : String} (hproc : ∀ p, receiver ≠ .proc p)
    (hkeys : ∀ k, records.Holds k → ¬ m.heap.Inside receiver k)
    (hstore : ∀ r, receiver = .hash r → name = "[]=" → records r = none) (args : Args) (n : ℕ) :
    Stores host (after (Machine.reply host n receiver name args) m) records := by
  obtain ⟨-, hkept⟩ := hs.hashes_and_kept
  have heffect : m.Effect receiver name args (Machine.reply host n receiver name args) :=
    effect_byName hd name hproc
  rcases heffect with ⟨hext, hgrows, -⟩ | ⟨v, m', hanswer, hext, hwrites, -⟩
  · refine hs.other (hd.extends hext).keepsHashes
      (fun r stored hr => ⟨hr, hgrows.sameAt (hkept.held r stored hr)⟩) ?_
    exact fun k hk c hc => hgrows.sameAt ((hkept.sound k hk).nested.inside hc).stored
  · rw [after_of_ok hanswer]
    refine hs.other (hd.extends hext).keepsHashes (fun r stored hr => ⟨hr, hwrites.sameAt ?_⟩) ?_
    · rintro rfl
      rw [hstore r rfl hwrites.name_of_hash] at hr
      cases hr
    · exact fun k hk c hc => hwrites.sameAt fun heq => hkeys k hk (heq ▸ hc)

end Stores

open Entries in
/-- A hash answers like a map of the pairs that were stored in it: a list of the keys that came
first, each of them with its last value. -/
structure Mapping (host : Host) (n : ℕ) (m : Machine) (records : Records) (r : ℕ)
    (stored : List (Value × Value)) : Prop where
  -- one more hash is built in the end, and one more pair is stored
  builds : ∀ pairs, (∀ d ∈ pairs, m.heap.Keyable records d.1) →
    ∃ q h, m.heap.hashOf? pairs = some (q, h)
  stores : ∀ key, m.heap.Keyable records key →
    (∀ k, k = key ∨ records.Holds k → ¬ m.heap.Inside (.hash r) k) →
    ∀ v keywords, ∃ m', reply host n (.hash r) "[]=" ⟨[key, v], keywords⟩ m = .ok v m'
  unequal : (m.heap.hash r).Pairwise fun d e =>
    m.heap.eql d.1 e.1 = false ∧ m.heap.eql e.1 d.1 = false
  keys : ∀ keywords, ∃ m', reply host n (.hash r) "keys" ⟨[], keywords⟩ m =
    .ok (.array m.heap.arrays.size) m' ∧
    m'.heap.array m.heap.arrays.size = firstKeys m.heap.eql (stored.map Prod.fst)
  values : ∀ keywords, ∃ m', reply host n (.hash r) "values" ⟨[], keywords⟩ m =
    .ok (.array m.heap.arrays.size) m' ∧
    (m'.heap.array m.heap.arrays.size).map some =
      (firstKeys m.heap.eql (stored.map Prod.fst)).map (lastValue m.heap.eql stored)
  size : ∀ name ∈ ["size", "length"], ∀ keywords, reply host n (.hash r) name ⟨[], keywords⟩ m =
    .ok (count (firstKeys m.heap.eql (stored.map Prod.fst)).length) m.countHit.countHit
  read : ∀ key, m.heap.Keyable records key →
    ∀ keywords, reply host n (.hash r) "[]" ⟨[key], keywords⟩ m =
    .ok ((lastValue m.heap.eql stored key).getD .nil) m.countHit.countHit
  asked : ∀ name ∈ ["key?", "has_key?", "include?"], ∀ key, m.heap.Keyable records key → ∀ keywords,
    reply host n (.hash r) name ⟨[key], keywords⟩ m =
      .ok (.bool (stored.any fun d => m.heap.eql key d.1)) m.countHit.countHit
  keyword : ∀ items name, Args.keyword? ⟨items ++ [.hash r], true⟩ m.heap name =
    lastValue m.heap.eql stored (.symbol name)
  -- 1 and 1.0 are different keys, and so are 0.0 and -0.0; whatever is no number finds itself
  integers : ∀ i d, m.heap.eql (.integer i) (.float d) = false ∧
    m.heap.eql (.float d) (.integer i) = false
  floats : ∀ d e, m.heap.eql (.float d) (.float e) = true ↔ d = e

namespace Kept

variable (hkept : Kept records h) (hr : records r = some stored)

include hkept hr

theorem map_fst_hash : (h.hash r).map Prod.fst = Entries.firstKeys h.eql (stored.map Prod.fst) := by
  rw [hkept.entries r stored hr, Heap.equates_eql.keys_gather (hkept.sound_key hr)]

theorem map_snd_hash : ((h.hash r).map Prod.snd).map some =
    (Entries.firstKeys h.eql (stored.map Prod.fst)).map (Entries.lastValue h.eql stored) := by
  rw [← hkept.map_fst_hash hr, List.map_map, List.map_map, hkept.entries r stored hr]
  refine List.map_congr_left fun e he => ?_
  exact (Heap.equates_eql.lastValue_of_mem (hkept.sound_key hr) he).symm

theorem hashGet?_eq (hk : h.Keyable records k) :
    h.hashGet? r k = some (Entries.lastValue h.eql stored k) := by
  have hnested : ∀ e ∈ h.hash r, h.Nested e.1 :=
    fun e he => (hkept.sound _ (hkept.holds_of_mem_hash hr he)).nested
  rw [Heap.hashGet?, hk.nested.lookUp? hnested, hkept.entries r stored hr,
    Heap.equates_eql.get?_gather (hkept.sound_key hr) (hkept.sound_of_keyable hk)]

end Kept

/-- As long as the methods of hashes are the built-in ones and the keys stay as they are, a hash is
an ordered map of all the pairs that were stored in it. -/
theorem Stores.maps (hs : Stores host m records) (hr : records r = some stored) (n : ℕ) :
    Mapping host n m records r stored := by
  obtain ⟨hm, hkept⟩ := hs.hashes_and_kept
  constructor
  case builds => exact fun pairs hpairs => ⟨_, _, Heap.hashOf?_eq fun d hd => (hpairs d hd).nested⟩
  case stores =>
    exact fun key hkey hout v keywords =>
      ⟨_, hm.reply_store_eq (hkept.stored?_eq hr hkey hout v) keywords⟩
  case unequal =>
    rw [hkept.entries r stored hr]
    exact Heap.equates_eql.pairwise_gather (hkept.sound_key hr)
  case keys =>
    intro keywords
    rw [hm.reply_eq (k := .keys) (by decide)]
    refine ⟨_, rfl, ?_⟩
    rw [← hkept.map_fst_hash hr]
    exact congrArg (Option.getD · []) Array.getElem?_push_size
  case values =>
    intro keywords
    rw [hm.reply_eq (k := .values) (by decide)]
    refine ⟨_, rfl, ?_⟩
    rw [← hkept.map_snd_hash hr]
    exact congrArg (fun items => (Option.getD items []).map some) Array.getElem?_push_size
  case size =>
    intro name hname keywords
    have hmem : (name, HashMethod.size) ∈ Builtin.hashMethods := by
      revert name
      decide
    rw [hm.reply_eq hmem, ← hkept.map_fst_hash hr, List.length_map]
    rfl
  case read =>
    intro key hkey keywords
    rw [hm.reply_eq (k := .ref) (by decide)]
    exact HashMethod.run_ref (m := m.countHit.countHit) (hkept.hashGet?_eq hr hkey) keywords
  case asked =>
    intro name hname key hkey keywords
    have hmem : (name, HashMethod.hasKey) ∈ Builtin.hashMethods := by
      revert name
      decide
    rw [hm.reply_eq hmem, ← Entries.isSome_lastValue]
    exact HashMethod.run_hasKey (m := m.countHit.countHit) (hkept.hashGet?_eq hr hkey) keywords
  case keyword =>
    intro items name
    have hget := hkept.hashGet?_eq hr (k := .symbol name) (.of_flat rfl)
    simp only [Args.keyword?, List.getLast?_concat, hget, Option.join_some, if_true]
  case integers =>
    intro i d
    constructor <;> simp [Heap.eql, Heap.eql?_eq, Heap.eqlStep]
  case floats =>
    rintro ⟨b⟩ ⟨c⟩
    rw [Heap.eql_flat rfl]
    simp [Value.content, Value.identity]

def twoArrays : Machine :=
  { build .standard with heap := ((Heap.empty.newArray [.integer 1]).2.newArray [.integer 1]).2 }

def mixedPairs : List (Value × Value) :=
  [(.array 0, .bool true), (.float ⟨0⟩, .integer 5), (.float ⟨0x8000000000000000⟩, .nil),
   (.float ⟨0x7ff8000000000000⟩, .bool false)]

theorem Heap.keyable_of_arrays (harrays : h.arrays = #[[.integer 1], [.integer 1]])
    (hk : k = .array 0 ∨ k = .array 1 ∨ k.isContainer = false) : h.Keyable records k := by
  have harray : ∀ r, h.arrays[r]? = some [.integer 1] → h.Keyable records (.array r) := by
    intro r hr
    apply Keyable.of_parts
    · exact (Array.getElem?_eq_some_iff.mp hr).1
    · exact nofun
    · intro p hp
      have hone : p ∈ h.arrays[r]?.getD [] := hp
      rw [hr] at hone
      obtain rfl := List.mem_singleton.mp hone
      exact .of_flat rfl
  rcases hk with rfl | rfl | hflat
  · exact harray 0 (by rw [harrays]; rfl)
  · exact harray 1 (by rw [harrays]; rfl)
  · exact .of_flat hflat

/-- What is stored under the other array gets to the place of the first. -/
theorem maps_mixedPairs : ∃ m records, Stores Host.idle m records ∧
    records 0 = some (mixedPairs ++ [(.array 1, .integer 7)]) ∧
    (∃ m', reply Host.idle 0 (.hash 0) "keys" .empty m = .ok (.array 2) m' ∧
      m'.heap.array 2 = mixedPairs.map Prod.fst) ∧
    (∃ m', reply Host.idle 0 (.hash 0) "values" .empty m = .ok (.array 2) m' ∧
      m'.heap.array 2 = [.integer 7, .integer 5, .nil, .bool false]) ∧
    reply Host.idle 0 (.hash 0) "[]" (.positional [.float ⟨0x7ff8000000000000⟩]) m =
      .ok (.bool false) m.countHit.countHit := by
  have hmixed : ∀ d ∈ mixedPairs, d.1 = .array 0 ∨ d.1 = .array 1 ∨ d.1.isContainer = false := by
    decide
  have hhashes : twoArrays.KeepsHashes :=
    ((defines_build .standard).extends (Frame.heap _ _)).keepsHashes
  set m₁ : Machine := { twoArrays with heap := (twoArrays.heap.newHash mixedPairs).2 }
  have hkeyable : ∀ d ∈ mixedPairs, twoArrays.heap.Keyable (fun _ => none) d.1 := fun d hd =>
    Heap.keyable_of_arrays rfl (hmixed d hd)
  have hmade : twoArrays.heap.hashOf? mixedPairs = some (0, m₁.heap) := by
    have hgather : Entries.gather twoArrays.heap.eql mixedPairs = mixedPairs := by decide
    rw [Heap.hashOf?_eq fun d hd => (hkeyable d hd).nested, hgather]
    rfl
  have hbuilt : Stores Host.idle m₁ (Function.update (fun _ => none) 0 (some mixedPairs)) :=
    .build (.start hhashes) hkeyable hmade
  set records₁ : Records := Function.update (fun _ => none) 0 (some mixedPairs)
  have hrecord : records₁ 0 = some mixedPairs := Function.update_self ..
  have houtside : ∀ k, k = .array 1 ∨ records₁.Holds k → ¬ m₁.heap.Inside (.hash 0) k := by
    intro k hk hinside
    have hcases : k = .array 0 ∨ k = .array 1 ∨ k.isContainer = false := by
      rcases hk with rfl | hk
      · exact .inr (.inl rfl)
      · rcases Records.holds_update hk with ⟨_, _, hr, -⟩ | hk
        · cases hr
        · obtain ⟨d, hd, rfl⟩ := List.mem_map.mp hk
          exact hmixed d hd
    have hno : m₁.heap.Keyable (fun _ => none) k := Heap.keyable_of_arrays rfl hcases
    cases hno.recorded 0 hinside
  have hkey : m₁.heap.Keyable records₁ (.array 1) := Heap.keyable_of_arrays rfl (.inr (.inl rfl))
  set entries := Entries.put (m₁.heap.eql (.array 1)) (.array 1) (.integer 7) (m₁.heap.hash 0)
  have hanswer : reply Host.idle 0 (.hash 0) "[]=" ⟨[.array 1, .integer 7], false⟩ m₁ =
      .ok (.integer 7) { m₁.countHit.countHit with heap := m₁.heap.setHash 0 entries } := by
    obtain ⟨hkeeps, hkept⟩ := hbuilt.hashes_and_kept
    exact hkeeps.reply_store_eq (hkept.stored?_eq hrecord hkey houtside _) false
  have hstored : Stores Host.idle
      (after (reply Host.idle 0 (.hash 0) "[]=" ⟨[.array 1, .integer 7], false⟩) m₁)
      (Function.update records₁ 0 (some (mixedPairs ++ [(.array 1, .integer 7)]))) :=
    .store hbuilt hrecord hkey houtside
  rw [after_of_ok hanswer] at hstored
  have hmaps := hstored.maps (Function.update_self ..) 0
  obtain ⟨m', hkeys, hkeys'⟩ := hmaps.keys false
  obtain ⟨m'', hvalues, hvalues'⟩ := hmaps.values false
  refine ⟨_, _, hstored, Function.update_self .., ⟨m', hkeys, hkeys'.trans ?_⟩,
    ⟨m'', hvalues, ?_⟩, ?_⟩
  · decide
  · refine List.map_injective_iff.mpr (Option.some_injective _) (hvalues'.trans ?_)
    decide
  · have hlast : Entries.lastValue (m₁.heap.setHash 0 entries).eql
        (mixedPairs ++ [(.array 1, .integer 7)]) (.float ⟨0x7ff8000000000000⟩) =
          some (.bool false) := by
      decide
    refine (hmaps.read _ (.of_flat rfl) false).trans ?_
    rw [hlast]
    rfl

end LateBinding
