import LateBinding.Proofs.Value.Ending
import Mathlib.Data.Fintype.EquivFin
import Mathlib.Data.List.Forall2
import Mathlib.Data.List.Pairwise

/-! # Equality of sound values

Equality of hashes is one-sided: the entries of the first are looked for in the second. Between
hashes of one length with unequal keys the entries found are all of the second, so equality can be
turned round.
-/

namespace LateBinding

variable {h : Heap} {a b c v w : Value} {n m : ℕ}

def Value.identity : Value → List Feed
  | .nil => [.kind 0]
  | .bool b => [.kind 1, .bool b]
  | .integer n => [.kind 2, .integer n]
  | .float d => [.kind 3, .bits d.bits]
  | .string s => [.kind 4, .identity s.id]
  | .symbol s => [.kind 5, .symbol s.id]
  | .array r => [.kind 6, .identity r]
  | .hash r => [.kind 7, .identity r]
  | .regexp r => [.kind 8, .identity r.id]
  | .matched m => [.kind 9, .identity m.id]
  | .proc p => [.kind 10, .identity p.id]
  | .object o => [.kind 11, .identity o.ref]

/-- What tells values apart that are no containers. -/
def Value.content : Value → List Feed × List (Option Span)
  | .string s => ([.kind 4, .text s.text], [])
  | .regexp r => ([.kind 8, .text r.source], [])
  | .matched m => ([.kind 9, .text m.regexp.source, .text m.subject], m.groups)
  | v => (v.identity, [])

namespace Heap

section Step

variable {rel : Value × Value → Option Bool} {held : Option ℕ} {r q : ℕ}

theorem eqlStep_flat (ha : a.isContainer = false) :
    h.eqlStep held rel (a, b) = some (decide (a.content = b.content)) := by
  cases a with
  | array r => cases ha
  | hash r => cases ha
  | _ =>
    cases b <;> refine congrArg some (Bool.eq_iff_iff.mpr ?_) <;>
      simp [Value.content, Value.identity, Symbol.same, Match.eql, and_assoc]

theorem eqlStep_cases (hab : h.eqlStep held rel (a, b) = some true) :
    (a.isContainer = false ∧ b.isContainer = false ∧ a.content = b.content) ∨
      (∃ r q, a = .array r ∧ b = .array q) ∨ ∃ r q, a = .hash r ∧ b = .hash q := by
  cases hc : a.isContainer with
  | false =>
    rw [eqlStep_flat hc, Option.some_inj, decide_eq_true_eq] at hab
    refine .inl ⟨rfl, ?_, hab⟩
    cases b with
    | array q => cases a <;> simp [Value.content, Value.identity, Value.isContainer] at hab hc
    | hash q => cases a <;> simp [Value.content, Value.identity, Value.isContainer] at hab hc
    | _ => rfl
  | true =>
    cases a with
    | array r =>
      cases b with
      | array q => exact .inr (.inl ⟨r, q, rfl, rfl⟩)
      | _ => simp [eqlStep] at hab
    | hash r =>
      cases b with
      | hash q => exact .inr (.inr ⟨r, q, rfl, rfl⟩)
      | _ => simp [eqlStep] at hab
    | _ => cases hc

end Step

theorem eql?_flat {held : Option ℕ} (ha : a.isContainer = false) :
    h.eql? held a b = some (decide (a.content = b.content)) := by
  rw [eql?_eq, eqlStep_flat ha]

theorem eql_eq_decide (ha : a.isContainer = false) :
    h.eql a b = decide (a.content = b.content) := by
  simp [eql, eql?_flat ha]

theorem eql_flat (ha : a.isContainer = false) : h.eql a b = true ↔ a.content = b.content := by
  rw [eql_eq_decide ha, decide_eq_true_iff]

theorem eql_iff : h.eql a b = true ↔ h.eql? none a b = some true := by
  rw [eql, beq_iff_eq]

theorem eql_cases (hab : h.eql a b = true) :
    (a.isContainer = false ∧ b.isContainer = false ∧ a.content = b.content) ∨
      (∃ r q, a = .array r ∧ b = .array q) ∨ ∃ r q, a = .hash r ∧ b = .hash q := by
  rw [eql_iff, eql?_eq] at hab
  exact eqlStep_cases hab

theorem eql?_self {held : Option ℕ} {v : Value} : h.eql? held v v = some true := by
  cases hv : v.isContainer with
  | false => simp [eql?_flat hv]
  | true =>
    rw [eql?_eq]
    cases v with
    | array r => simp [eqlStep]
    | hash r => simp [eqlStep]
    | _ => cases hv

theorem eql_self {v : Value} : h.eql v v = true := eql_iff.mpr eql?_self

theorem same_iff : h.same a b = true ↔ a.identity = b.identity := by
  cases a with
  | string s | array r | hash r | regexp r | matched m =>
    cases b <;> first
      | exact (eql_flat rfl).trans (by simp [Value.content, Value.identity])
      | simp [same, Value.identity, eql, eql?_eq, eqlStep]
  | _ =>
    refine (eql_flat rfl).trans ?_
    cases b <;> simp [Value.content, Value.identity]

theorem matched_congr {k l : Match} (hs : k.subject = l.subject) (hg : k.groups = l.groups) :
    k.matched = l.matched := by
  unfold Match.matched Match.get? Match.span?
  rw [hs, hg]

section Feeds

variable {held : Option ℕ}

theorem feed?_flat (ha : a.isContainer = false) (hab : a.content = b.content) :
    h.feed? held a = h.feed? held b := by
  rw [feed?_eq, feed?_eq h held b]
  cases a with
  | array r => cases ha
  | hash r => cases ha
  | matched k =>
    cases b with
    | matched l =>
      simp only [Value.content, Prod.mk.injEq, List.cons.injEq, Feed.text.injEq] at hab
      obtain ⟨⟨_, _, hs, _⟩, hg⟩ := hab
      simp only [feedStep, matched_congr hs hg]
    | _ => simp [Value.content, Value.identity] at hab
  | _ => cases b <;> simp_all [Value.content, Value.identity, feedStep]

/-- By induction on the depth: equal values feed the same to a hasher, also those that hold
themselves. -/
theorem feed?_eq_of_eql? (hab : h.eql? held a b = some true) : h.feed? held a = h.feed? held b := by
  suffices hunroll : ∀ n a b, unroll (h.eqlStep held) n (a, b) = some true →
      h.feed? held a = h.feed? held b from
    hunroll _ a b hab
  have hstep : ∀ rel : Value × Value → Option Bool,
      (∀ a b, rel (a, b) = some true → h.feed? held a = h.feed? held b) →
        ∀ a b, h.eqlStep held rel (a, b) = some true → h.feed? held a = h.feed? held b := by
    intro rel hrel a b hab
    rcases eqlStep_cases hab with ⟨ha, _, hc⟩ | ⟨r, q, rfl, rfl⟩ | ⟨r, q, rfl, rfl⟩
    · exact feed?_flat ha hc
    · simp only [eqlStep] at hab
      split at hab
      · next hrq => rw [hrq]
      split at hab
      · next hlength =>
        have hitems : List.Forall₂ (fun a b => h.feed? held a = h.feed? held b) (h.array r)
            (h.array q) :=
          List.forall₂_iff_zip.mpr ⟨hlength, fun hp => hrel _ _ (all?_eq_true.mp hab _ hp)⟩
        rw [feed?_eq, feed?_eq h held (.array q), feedStep, feedStep, mapM_eq_of_forall₂ hitems]
      · cases hab
    · simp only [eqlStep] at hab
      split at hab
      · next hrq => rw [hrq]
      obtain ⟨entries, hentries, hab⟩ := Option.bind_eq_some_iff.mp hab
      obtain ⟨others, hothers, hab⟩ := Option.bind_eq_some_iff.mp hab
      split at hab
      · next hlength => rw [feed?_eq, feed?_eq h held (.hash q), feedStep, feedStep, hentries,
                          hothers]; simp [hlength]
      · cases hab
  intro n
  induction n with
  | zero => exact hstep _ fun _ _ hab => (Option.some_ne_none _ hab.symm).elim
  | succ n ih => exact hstep _ ih

theorem feed?_eq_of_eql (hab : h.eql a b = true) : h.feed? none a = h.feed? none b :=
  feed?_eq_of_eql? (eql_iff.mp hab)

end Feeds

section Nested

variable {held : Option ℕ} {key w : Value} {es fs : List (Value × Value)} {r q : ℕ}

/-- The first look at what keys feed rules out no equal key. -/
theorem Nested.isKey? (hkey : h.Nested key) (hv : h.Nested v) {fed : List Feed}
    (hfed : h.feed? none key = some fed) :
    h.isKey? none (fun p => h.eql? none p.1 p.2) key fed v = some (h.eql key v) := by
  unfold Heap.isKey?
  split
  · exact hkey.eql?_eq_some hv
  · next hne =>
    rw [Bool.eq_false_iff.mpr fun heql => hne ((feed?_eq_of_eql heql).symm.trans hfed)]

theorem Nested.lookUp? (hkey : h.Nested key) (hes : ∀ e ∈ es, h.Nested e.1) :
    h.lookUp? none (fun p => h.eql? none p.1 p.2) key es = some (Entries.get? (h.eql key) es) := by
  unfold Heap.lookUp?
  split
  · exact Entries.find?_of_ends fun e he => hkey.eql?_eq_some (hes e he)
  · have hsome : (h.feed? none key).isSome = true := hkey.isSome_feed? (by simp)
    obtain ⟨fed, hfed⟩ := Option.isSome_iff_exists.mp hsome
    rw [hfed]
    exact Entries.find?_of_ends fun e he => hkey.isKey? (hes e he) hfed

/-- An entry is stored in the end, if neither its key nor a stored one has need of the hash that is
held. -/
theorem Nested.insert? (hkey : h.Nested key) (hes : ∀ e ∈ es, h.Nested e.1)
    (hheld : ∀ r ∈ held, ¬ h.Inside (.hash r) key)
    (hheld' : ∀ e ∈ es, ∀ r ∈ held, ¬ h.Inside (.hash r) e.1) (w : Value) :
    h.insert? held key w es = some (Entries.put (h.eql key) key w es) := by
  have hsome : (h.feed? none key).isSome = true := hkey.isSome_feed? (by simp)
  obtain ⟨fed, hfed⟩ := Option.isSome_iff_exists.mp hsome
  unfold Heap.insert?
  rw [hkey.feed?_held hheld, hfed]
  refine Entries.insert?_of_ends fun e he => ?_
  have heql : h.eql? held key e.1 = h.eql? none key e.1 :=
    (hkey.eql?_held (hes e he) hheld (hheld' e he)).1
  rw [← hkey.isKey? (hes e he) hfed]
  simp only [Heap.isKey?, (hes e he).feed?_held (hheld' e he), heql]

theorem Nested.isFound? {e : Value × Value} (hkey : h.Nested e.1) (hvalue : h.Nested e.2)
    (hkeys : ∀ f ∈ fs, h.Nested f.1) (hvalues : ∀ f ∈ fs, h.Nested f.2) :
    h.isFound? none (fun p => h.eql? none p.1 p.2) fs e =
      some ((Entries.get? (h.eql e.1) fs).any (h.eql · e.2)) := by
  unfold Heap.isFound?
  rw [hkey.lookUp? hkeys]
  cases hfound : Entries.get? (h.eql e.1) fs with
  | none => rfl
  | some w =>
    obtain ⟨f, hf, -, rfl⟩ := Entries.exists_of_get? hfound
    exact (hvalues f hf).eql?_eq_some hvalue

def findsAll (key val : Value → Value → Bool) (es fs : List (Value × Value)) : Bool :=
  es.all fun (k, v) => (Entries.get? (key k) fs).any (val · v)

theorem findsAll_iff {key val : Value → Value → Bool} : findsAll key val es fs = true ↔
    ∀ e ∈ es, ∃ x, Entries.get? (key e.1) fs = some x ∧ val x e.2 = true := by
  simp only [findsAll, List.all_eq_true, Option.any_eq_true]

theorem eql_array : h.eql (.array r) (.array q) = true ↔
    r = q ∨ List.Forall₂ (fun a b => h.eql a b = true) (h.array r) (h.array q) := by
  have hitems : all? (fun p => h.eql? none p.1 p.2) ((h.array r).zip (h.array q)) = some true ↔
      ∀ p ∈ (h.array r).zip (h.array q), h.eql p.1 p.2 = true :=
    all?_eq_true.trans (forall₂_congr fun p _ => eql_iff.symm)
  rw [eql_iff, eql?_eq, eqlStep, List.forall₂_iff_zip]
  by_cases hrq : r = q
  · simp [hrq]
  rw [if_neg hrq]
  by_cases hlength : (h.array r).length = (h.array q).length
  · rw [if_pos hlength, hitems]
    exact ⟨fun hall => .inr ⟨hlength, fun hp => hall _ hp⟩,
      fun hor p hp => (hor.resolve_left hrq).2 hp⟩
  · simp [hrq, hlength]

theorem eql_hash (hr : h.Nested (.hash r)) (hq : h.Nested (.hash q)) :
    h.eql (.hash r) (.hash q) = true ↔
      r = q ∨ (h.hash r).length = (h.hash q).length ∧
        findsAll h.eql h.eql (h.hash r) (h.hash q) = true := by
  have hread : ∀ r, h.read? none r = some (h.hash r) := fun r => rfl
  have hfind : all? (h.isFound? none (fun p => h.eql? none p.1 p.2) (h.hash q)) (h.hash r) =
      some (findsAll h.eql h.eql (h.hash r) (h.hash q)) := by
    refine all?_of_ends fun e he => Nested.isFound? ?_ ?_ ?_ ?_
    · exact hr.part (key_mem_parts he)
    · exact hr.part (value_mem_parts he)
    · exact fun f hf => hq.part (key_mem_parts hf)
    · exact fun f hf => hq.part (value_mem_parts hf)
  rw [eql_iff, eql?_eq, eqlStep, hread, hread]
  simp only [Option.bind_eq_bind, Option.bind_some, hfind]
  split
  · next hrq => simp [hrq]
  split
  · next hlength => simp [*]
  · next hlength => simp [*]

end Nested

section Levels

variable {r q : ℕ}

/-- Entries of a sound hash whose parts have at most `n` levels. -/
structure Keyed (h : Heap) (n : ℕ) (es : List (Value × Value)) : Prop where
  key : ∀ e ∈ es, h.FitsIn n e.1
  value : ∀ e ∈ es, h.FitsIn n e.2
  apart : es.Pairwise fun d e => h.eql d.1 e.1 = false

theorem FitsIn.keyed (hr : h.FitsIn (n + 1) (.hash r)) : h.Keyed n (h.hash r) where
  key _ he := hr.2 _ (key_mem_parts he)
  value _ he := hr.2 _ (value_mem_parts he)
  apart := hr.1.2

/-- Equality can be turned round and chained between values of at most `n` levels. -/
structure Linked (h : Heap) (n : ℕ) : Prop where
  symm : ∀ {a b : Value}, h.FitsIn n a → h.FitsIn n b → h.eql a b = true → h.eql b a = true
  trans : ∀ {a b c : Value}, h.FitsIn n a → h.FitsIn n b → h.FitsIn n c →
    h.eql a b = true → h.eql b c = true → h.eql a c = true

variable {es fs gs : List (Value × Value)}

theorem Keyed.nodup (hes : h.Keyed n es) : es.Nodup := by
  refine hes.apart.imp ?_
  rintro d _ hd rfl
  have hself : h.eql d.1 d.1 = true := eql_self
  rw [hself] at hd
  cases hd

theorem Keyed.eq_of_eql (hes : h.Keyed n es) (hl : h.Linked n) {d e : Value × Value} (hd : d ∈ es)
    (he : e ∈ es) (hde : h.eql d.1 e.1 = true) : d = e := by
  by_contra hne
  have hboth : es.Pairwise fun d e => h.eql d.1 e.1 = false ∧ h.eql e.1 d.1 = false := by
    refine hes.apart.imp_of_mem fun {x y} hx hy hxy => ⟨hxy, ?_⟩
    refine Bool.eq_false_iff.mpr fun hyx => ?_
    rw [hl.symm (hes.key y hy) (hes.key x hx) hyx] at hxy
    cases hxy
  have : Std.Symm fun d e : Value × Value => h.eql d.1 e.1 = false ∧ h.eql e.1 d.1 = false :=
    ⟨fun _ _ => And.symm⟩
  have hapart := (hboth.forall hd he hne).1
  rw [hde] at hapart
  cases hapart

theorem Keyed.findsAll_iff (hes : h.Keyed n es) (hfs : h.Keyed n fs) (hl : h.Linked n) :
    findsAll h.eql h.eql es fs = true ↔
      ∀ e ∈ es, ∃ f ∈ fs, h.eql e.1 f.1 = true ∧ h.eql f.2 e.2 = true := by
  rw [Heap.findsAll_iff]
  refine forall₂_congr fun e he => ⟨?_, ?_⟩
  · rintro ⟨x, hx, hv⟩
    obtain ⟨f, hf, hk, rfl⟩ := Entries.exists_of_get? hx
    exact ⟨f, hf, hk, hv⟩
  · rintro ⟨f, hf, hk, hv⟩
    refine ⟨f.2, Entries.get?_of_unique hf hk fun d hd hkd => ?_, hv⟩
    have hdk := hl.symm (hes.key e he) (hfs.key d hd) hkd
    exact hfs.eq_of_eql hl hd hf (hl.trans (hfs.key d hd) (hes.key e he) (hfs.key f hf) hdk hk)

/-- Each entry of the second hash is found from the first: two entries of the first never find the
same one, so as many as there are find them all. -/
theorem Keyed.findsAll_symm (hes : h.Keyed n es) (hfs : h.Keyed n fs) (hl : h.Linked n)
    (hlen : es.length = fs.length) (hall : findsAll h.eql h.eql es fs = true) :
    findsAll h.eql h.eql fs es = true := by
  rw [hes.findsAll_iff hfs hl] at hall
  rw [hfs.findsAll_iff hes hl]
  choose found hmem hkey hval using hall
  intro f hf
  have honto := Finset.surj_on_of_inj_on_of_card_le (s := es.toFinset) (t := fs.toFinset)
    (fun e he => found e (List.mem_toFinset.mp he))
    (fun e he => List.mem_toFinset.mpr (hmem e _)) ?_ ?_
  · obtain ⟨e, he, rfl⟩ := honto f (List.mem_toFinset.mpr hf)
    have he := List.mem_toFinset.mp he
    exact ⟨e, he, hl.symm (hes.key e he) (hfs.key _ hf) (hkey e he),
      hl.symm (hfs.value _ hf) (hes.value e he) (hval e he)⟩
  · intro d e hd he hde
    have hd := List.mem_toFinset.mp hd
    have he := List.mem_toFinset.mp he
    have hback := hl.symm (hes.key e he) (hfs.key _ (hmem e he)) (hkey e he)
    have hforth := hkey d hd
    rw [hde] at hforth
    exact hes.eq_of_eql hl hd he
      (hl.trans (hes.key d hd) (hfs.key _ (hmem e he)) (hes.key e he) hforth hback)
  · rw [List.toFinset_card_of_nodup hes.nodup, hlen]
    exact fs.toFinset_card_le

theorem Keyed.findsAll_trans (hes : h.Keyed n es) (hfs : h.Keyed n fs) (hgs : h.Keyed n gs)
    (hl : h.Linked n) (hef : findsAll h.eql h.eql es fs = true)
    (hfg : findsAll h.eql h.eql fs gs = true) : findsAll h.eql h.eql es gs = true := by
  rw [hes.findsAll_iff hfs hl] at hef
  rw [hfs.findsAll_iff hgs hl] at hfg
  rw [hes.findsAll_iff hgs hl]
  intro e he
  obtain ⟨f, hf, hkf, hvf⟩ := hef e he
  obtain ⟨g, hg, hkg, hvg⟩ := hfg f hf
  exact ⟨g, hg, hl.trans (hes.key e he) (hfs.key f hf) (hgs.key g hg) hkf hkg,
    hl.trans (hgs.value g hg) (hfs.value f hf) (hes.value e he) hvg hvf⟩

theorem linked_zero : h.Linked 0 where
  symm ha hb hab := (eql_flat hb).mpr ((eql_flat ha).mp hab).symm
  trans ha hb _ hab hbc :=
    (eql_flat ha).mpr (((eql_flat ha).mp hab).trans ((eql_flat hb).mp hbc))

theorem Linked.symm_succ (hl : h.Linked n) (ha : h.FitsIn (n + 1) a) (hb : h.FitsIn (n + 1) b)
    (hab : h.eql a b = true) : h.eql b a = true := by
  rcases eql_cases hab with ⟨_, hflat, hc⟩ | ⟨r, q, rfl, rfl⟩ | ⟨r, q, rfl, rfl⟩
  · exact (eql_flat hflat).mpr hc.symm
  · rw [eql_array] at hab
    rw [eql_array]
    refine hab.imp Eq.symm fun hitems => ?_
    rw [List.forall₂_iff_get] at hitems ⊢
    refine ⟨hitems.1.symm, fun i hi hj => ?_⟩
    exact hl.symm (ha.2 _ (List.get_mem _ _)) (hb.2 _ (List.get_mem _ _)) (hitems.2 i hj hi)
  · rw [eql_hash ha.nested hb.nested] at hab
    rw [eql_hash hb.nested ha.nested]
    refine hab.imp Eq.symm fun ⟨hlen, hall⟩ => ⟨hlen.symm, ?_⟩
    exact ha.keyed.findsAll_symm hb.keyed hl hlen hall

theorem Linked.trans_succ (hl : h.Linked n) (ha : h.FitsIn (n + 1) a) (hb : h.FitsIn (n + 1) b)
    (hc : h.FitsIn (n + 1) c) (hab : h.eql a b = true) (hbc : h.eql b c = true) :
    h.eql a c = true := by
  rcases eql_cases hab with ⟨hflat, hflat', hcontent⟩ | ⟨r, q, rfl, rfl⟩ | ⟨r, q, rfl, rfl⟩
  · exact (eql_flat hflat).mpr (hcontent.trans ((eql_flat hflat').mp hbc))
  · obtain ⟨hflat, _⟩ | ⟨_, p, _, rfl⟩ | ⟨_, _, heq, _⟩ := eql_cases hbc
    · cases hflat
    · rw [eql_array] at hab
      rw [eql_array] at hbc
      rw [eql_array]
      rcases hab with rfl | hab
      · exact hbc
      rcases hbc with rfl | hbc
      · exact .inr hab
      rw [List.forall₂_iff_get] at hab hbc ⊢
      refine .inr ⟨hab.1.trans hbc.1, fun i hi hk => ?_⟩
      have hj : i < (h.array q).length := hab.1 ▸ hi
      exact hl.trans (ha.2 _ (List.get_mem _ _)) (hb.2 _ (List.get_mem _ _))
        (hc.2 _ (List.get_mem _ _)) (hab.2 i hi hj) (hbc.2 i hj hk)
    · cases heq
  · obtain ⟨hflat, _⟩ | ⟨_, _, heq, _⟩ | ⟨_, p, _, rfl⟩ := eql_cases hbc
    · cases hflat
    · cases heq
    · rw [eql_hash ha.nested hb.nested] at hab
      rw [eql_hash hb.nested hc.nested] at hbc
      rw [eql_hash ha.nested hc.nested]
      rcases hab with rfl | ⟨hlen, hab⟩
      · exact hbc
      rcases hbc with rfl | ⟨hlen', hbc⟩
      · exact .inr ⟨hlen, hab⟩
      exact .inr ⟨hlen.trans hlen', ha.keyed.findsAll_trans hb.keyed hc.keyed hl hab hbc⟩

theorem linked (h : Heap) (n : ℕ) : h.Linked n := by
  induction n with
  | zero => exact linked_zero
  | succ n ih => exact ⟨ih.symm_succ, ih.trans_succ⟩

end Levels

theorem Sound.eql_symm (ha : h.Sound a) (hb : h.Sound b) (hab : h.eql a b = true) :
    h.eql b a = true :=
  (linked h h.depth).symm ha.fitsIn hb.fitsIn hab

theorem Sound.eql_trans (ha : h.Sound a) (hb : h.Sound b) (hc : h.Sound c) (hab : h.eql a b = true)
    (hbc : h.eql b c = true) : h.eql a c = true :=
  (linked h h.depth).trans ha.fitsIn hb.fitsIn hc.fitsIn hab hbc

end Heap

end LateBinding
