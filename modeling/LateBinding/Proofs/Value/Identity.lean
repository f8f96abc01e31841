import LateBinding.Proofs.Value.Equality

/-! # Identity and equality

Identity is an equivalence by itself. That it refines equality holds of the values that a heap has
issued: a string, a regexp or a match gets an identity that nothing had before, and never changes.
-/

namespace LateBinding

variable {h h' : Heap} {a b v w : Value} {vs : List Value}

/-- The counter that a value has its identity from, and the number drawn: strings have a counter of
their own. -/
def Value.ticket? : Value → Option (Bool × ℕ)
  | .string s => some (true, s.id)
  | .regexp r => some (false, r.id)
  | .matched m => some (false, m.id)
  | _ => none

namespace Heap

/-- The values that a program has come by on its way to a heap. -/
inductive Issued : Heap → List Value → Prop
  | start : Issued .empty []
  | string {h : Heap} {vs : List Value} (text : String) (hi : Issued h vs) :
    Issued (h.newString text).2 (.string (h.newString text).1 :: vs)
  | name {h : Heap} {vs : List Value} (s : Symbol) (hi : Issued h vs) :
    Issued (h.nameString s).2 (.string (h.nameString s).1 :: vs)
  | regexp {h : Heap} {vs : List Value} (source : String) (hi : Issued h vs) :
    Issued h.fresh.2 (.regexp ⟨h.fresh.1, source⟩ :: vs)
  | matched {h : Heap} {vs : List Value} (r : Regexp) (subject : String)
    (groups : List (Option Span)) (hi : Issued h vs) :
    Issued h.fresh.2 (.matched ⟨h.fresh.1, r, subject, groups⟩ :: vs)
  /-- Any other value, and any change to what containers and objects hold. -/
  | other {h h' : Heap} {vs : List Value} {v : Value} (hv : v.ticket? = none)
    (hs : h'.strings = h.strings) (hn : h.next ≤ h'.next) (hi : Issued h vs) : Issued h' (v :: vs)

def counter (h : Heap) : Bool → ℕ
  | true => h.strings.next
  | false => h.next

/-- No number is drawn twice, and the strings kept for symbols have been issued. -/
structure Tickets (h : Heap) (vs : List Value) : Prop where
  drawn : ∀ v ∈ vs, ∀ k n, v.ticket? = some (k, n) → n < h.counter k
  unique : ∀ v ∈ vs, ∀ w ∈ vs, ∀ t, v.ticket? = some t → w.ticket? = some t → v = w
  names : ∀ i s, (i, s) ∈ h.strings.names → .string s ∈ vs

theorem tickets_start : Tickets .empty [] where
  drawn _ hv := absurd hv List.not_mem_nil
  unique _ hv := absurd hv List.not_mem_nil
  names _ _ hs := absurd hs List.not_mem_nil

/-- A value with the number that its counter draws next is apart from all earlier ones. -/
theorem Tickets.draw (ht : Tickets h vs) {k : Bool} (hv : v.ticket? = some (k, h.counter k))
    (hk : h.counter k < h'.counter k) (hc : ∀ j, h.counter j ≤ h'.counter j)
    (hn : ∀ i s, (i, s) ∈ h'.strings.names → .string s ∈ v :: vs) : Tickets h' (v :: vs) where
  drawn := by
    intro w hw j n hj
    rcases List.mem_cons.mp hw with rfl | hw
    · obtain ⟨rfl, rfl⟩ : j = k ∧ n = h.counter k := by simpa [eq_comm] using hj.symm.trans hv
      exact hk
    · exact (ht.drawn w hw j n hj).trans_le (hc j)
  unique := by
    rintro w hw x hx ⟨j, n⟩ hwj hxj
    rcases List.mem_cons.mp hw with rfl | hold <;> rcases List.mem_cons.mp hx with rfl | hold'
    · rfl
    · obtain ⟨rfl, rfl⟩ : j = k ∧ n = h.counter k := by simpa [eq_comm] using hwj.symm.trans hv
      exact absurd (ht.drawn x hold' _ _ hxj) (lt_irrefl _)
    · obtain ⟨rfl, rfl⟩ : j = k ∧ n = h.counter k := by simpa [eq_comm] using hxj.symm.trans hv
      exact absurd (ht.drawn w hold _ _ hwj) (lt_irrefl _)
    · exact ht.unique w hold x hold' _ hwj hxj
  names := hn

theorem Tickets.keep (ht : Tickets h vs) (hv : v.ticket? = none ∨ v ∈ vs)
    (hs : h'.strings = h.strings) (hn : h.next ≤ h'.next) : Tickets h' (v :: vs) := by
  have hold : ∀ w ∈ v :: vs, ∀ t, w.ticket? = some t → w ∈ vs := by
    intro w hw t hwt
    rcases List.mem_cons.mp hw with rfl | hw
    · rcases hv with hv | hv
      · rw [hv] at hwt
        cases hwt
      · exact hv
    · exact hw
  refine ⟨fun w hw k n hk => ?_, fun w hw x hx t hwt hxt => ?_, fun i s hi => ?_⟩
  · refine (ht.drawn w (hold w hw _ hk) k n hk).trans_le ?_
    cases k with
    | true => rw [counter, counter, hs]
    | false => exact hn
  · exact ht.unique w (hold w hw t hwt) x (hold x hx t hxt) t hwt hxt
  · rw [hs] at hi
    exact List.mem_cons_of_mem _ (ht.names i s hi)

theorem Issued.tickets (hi : h.Issued vs) : h.Tickets vs := by
  induction hi with
  | start => exact tickets_start
  | @string h vs text _ ih =>
    refine ih.draw (k := true) rfl (Nat.lt_succ_self _) ?_ ?_
    · rintro (_ | _)
      · exact le_rfl
      · exact Nat.le_succ _
    · exact fun i s hs => List.mem_cons_of_mem _ (ih.names i s hs)
  | @name h vs s _ ih =>
    unfold nameString StringStore.nameOf
    cases hs : h.strings.name? s with
    | some t =>
      obtain ⟨_, _, hsplit, _⟩ := List.lookup_eq_some_iff.mp hs
      have hmem : (s.id, t) ∈ h.strings.names := by simp [hsplit]
      exact ih.keep (.inr (ih.names _ t hmem)) rfl le_rfl
    | none =>
      refine ih.draw (k := true) rfl (Nat.lt_succ_self _) ?_ ?_
      · rintro (_ | _)
        · exact le_rfl
        · exact Nat.le_succ _
      · rintro i t ht
        rcases List.mem_cons.mp ht with heq | ht
        · rw [(Prod.mk.inj heq).2]
          exact List.mem_cons_self
        · exact List.mem_cons_of_mem _ (ih.names i t ht)
  | @regexp h vs source _ ih =>
    refine ih.draw (k := false) rfl (Nat.lt_succ_self _) ?_ ?_
    · rintro (_ | _)
      · exact Nat.le_succ _
      · exact le_rfl
    · exact fun i s hs => List.mem_cons_of_mem _ (ih.names i s hs)
  | @matched h vs r subject groups _ ih =>
    refine ih.draw (k := false) rfl (Nat.lt_succ_self _) ?_ ?_
    · rintro (_ | _)
      · exact Nat.le_succ _
      · exact le_rfl
    · exact fun i s hs => List.mem_cons_of_mem _ (ih.names i s hs)
  | other hv hs hn _ ih => exact ih.keep (.inl hv) hs hn

theorem ticket?_eq_of_same (hab : h.same a b = true) : a.ticket? = b.ticket? := by
  have hid := same_iff.mp hab
  cases a <;> cases b <;> simp_all [Value.identity, Value.ticket?]

theorem same_eq_eql (ha : a.ticket? = none) (hb : b.ticket? = none) (hab : h.same a b = true) :
    h.eql a b = true := by
  cases a <;> cases b <;> simp_all [same, Value.ticket?, eql_self]

/-- Of all values that a heap has issued, those that are the same are equal. -/
theorem Issued.eql_of_same (hi : h.Issued vs) (ha : a ∈ vs) (hb : b ∈ vs)
    (hab : h.same a b = true) : h.eql a b = true := by
  have heq := ticket?_eq_of_same hab
  cases hticket : a.ticket? with
  | none => exact same_eq_eql hticket (heq ▸ hticket) hab
  | some t =>
    rw [hi.tickets.unique a ha b hb t hticket (heq ▸ hticket)]
    exact eql_self

theorem same_equivalence (h : Heap) : Equivalence fun a b => h.same a b = true where
  refl _ := same_iff.mpr rfl
  symm hab := same_iff.mpr (same_iff.mp hab).symm
  trans hab hbc := same_iff.mpr ((same_iff.mp hab).trans (same_iff.mp hbc))

theorem eql_equivalence (h : Heap) :
    Equivalence fun a b : { v : Value // h.Sound v } => h.eql a b = true where
  refl _ := eql_self
  symm {a b} hab := a.2.eql_symm b.2 hab
  trans {a b c} hab hbc := a.2.eql_trans b.2 c.2 hab hbc

/-- Equality serves for keys: it is an equivalence of sound values, whatever it holds to be equal
feeds the same to a hasher, and identity, an equivalence as well, is finer. Sound values are
compared and hashed in the end. -/
theorem equality_of_keys (h : Heap) :
    (Equivalence fun a b : { v : Value // h.Sound v } => h.eql a b = true) ∧
      (∀ a b, h.Sound a → h.Sound b → h.eql? none a b = some (h.eql a b) ∧
        (h.feed? none a).isSome = true) ∧
      (∀ a b, h.eql a b = true → h.feed? none a = h.feed? none b) ∧
      (∀ vs, h.Issued vs → ∀ a ∈ vs, ∀ b ∈ vs, h.same a b = true → h.eql a b = true) ∧
      Equivalence fun a b => h.same a b = true :=
  ⟨eql_equivalence h, fun _ _ ha hb => ⟨ha.nested.eql?_eq_some hb.nested,
    ha.nested.isSome_feed? (by simp)⟩, fun _ _ => feed?_eq_of_eql,
    fun _ hi _ ha _ hb => hi.eql_of_same ha hb, same_equivalence h⟩

def reordered : Heap :=
  { (Heap.empty.newString "k").2 with
    arrays := #[[.float ⟨0x7ff8000000000000⟩, .nil], [.float ⟨0x7ff8000000000000⟩, .nil]]
    hashes := #[[(.array 0, .string ⟨0, "k"⟩), (.nil, .array 1)],
      [(.nil, .array 0), (.array 1, .string ⟨0, "k"⟩)]] }

theorem equality_of_keys_reordered :
    reordered.eql? none (.hash 0) (.hash 1) = some true ∧ reordered.eql (.hash 1) (.hash 0) = true ∧
      reordered.feed? none (.hash 0) = reordered.feed? none (.hash 1) ∧
      reordered.same (.hash 0) (.hash 1) = false ∧
      reordered.eql (.string ⟨0, "k"⟩) (.string ⟨0, "k"⟩) = true := by
  have h₀ : reordered.Sound (.hash 0) := by decide
  have h₁ : reordered.Sound (.hash 1) := by decide
  have heql : reordered.eql (.hash 0) (.hash 1) = true := by decide
  have hissued : reordered.Issued [.hash 0, .string ⟨0, "k"⟩] :=
    .other (h := (Heap.empty.newString "k").2) rfl rfl (Nat.le_refl 0) (.string "k" .start)
  obtain ⟨hequiv, hends, hfeed, hsame, hid⟩ := equality_of_keys reordered
  refine ⟨(hends _ _ h₀ h₁).1.trans (congrArg some heql), ?_, hfeed _ _ heql, by decide, ?_⟩
  · exact hequiv.symm (x := ⟨.hash 0, h₀⟩) (y := ⟨.hash 1, h₁⟩) heql
  · exact hsame _ hissued _ (by simp) _ (by simp) (hid.refl _)

end Heap

end LateBinding
