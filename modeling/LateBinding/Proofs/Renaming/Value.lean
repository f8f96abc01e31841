import LateBinding.Args
import LateBinding.Proofs.Symbol.Canonical
import LateBinding.Proofs.Symbol.Display
import LateBinding.Proofs.Value.Equality
import LateBinding.Value.Display

/-! # Values up to a renaming of symbols

Two symbol tables have one symbol each for a name, wherever it stands in them. The symbols of one
name stand for each other, and a symbol of neither table stands for itself. Values that stand for
each other differ in their symbols only; on heaps with such contents they are shown, compared and
found alike.
-/

namespace LateBinding

/-- The symbol tables of two machines, which have the tag 0. -/
structure Renaming where
  left : SymbolTable
  right : SymbolTable
  canonical_left : left.Canonical
  canonical_right : right.Canonical
  tag_left : left.tag = 0
  tag_right : right.tag = 0

namespace Renaming

instance : Preorder Renaming where
  le ρ σ := ρ.left.Extends σ.left ∧ ρ.right.Extends σ.right
  le_refl _ := ⟨.refl _, .refl _⟩
  le_trans _ _ _ h h' := ⟨h.1.trans h'.1, h.2.trans h'.2⟩

variable {ρ σ : Renaming} {a a' b b' s s' : Symbol}

inductive Pairs (ρ : Renaming) : Symbol → Symbol → Prop
  | own {s s' : Symbol} (left : s ∈ ρ.left.symbols) (right : s' ∈ ρ.right.symbols)
    (name : s.name = s'.name) : Pairs ρ s s'
  | foreign {s : Symbol} (table : s.id.table ≠ 0) : Pairs ρ s s

namespace Pairs

theorem name_eq (hs : ρ.Pairs s s') : s.name = s'.name := by
  cases hs with
  | own _ _ name => exact name
  | foreign _ => rfl

theorem mono (hs : ρ.Pairs s s') (h : ρ ≤ σ) : σ.Pairs s s' := by
  cases hs with
  | own left right name => exact .own (h.1.mem_symbols left) (h.2.mem_symbols right) name
  | foreign table => exact .foreign table

end Pairs

theorem same_foreign {t : SymbolTable} (ht : t.Canonical) (htag : t.tag = 0) (ha : a ∈ t.symbols)
    (hb : b.id.table ≠ 0) : a.same b = false ∧ b.same a = false := by
  have hne : a.id ≠ b.id := by
    intro h
    rw [← h, ht.table_of_mem ha] at hb
    exact hb htag
  exact ⟨beq_eq_false_iff_ne.mpr hne, beq_eq_false_iff_ne.mpr hne.symm⟩

theorem Pairs.same_eq (ha : ρ.Pairs a a') (hb : ρ.Pairs b b') : a.same b = a'.same b' := by
  cases ha with
  | own hleft hright hname =>
    cases hb with
    | own hleft' hright' hname' =>
      rw [Bool.eq_iff_iff, ρ.canonical_left.same_iff hleft hleft',
        ρ.canonical_right.same_iff hright hright', hname, hname']
    | foreign htable =>
      rw [(same_foreign ρ.canonical_left ρ.tag_left hleft htable).1,
        (same_foreign ρ.canonical_right ρ.tag_right hright htable).1]
  | foreign htable =>
    cases hb with
    | own hleft' hright' _ =>
      rw [(same_foreign ρ.canonical_left ρ.tag_left hleft' htable).2,
        (same_foreign ρ.canonical_right ρ.tag_right hright' htable).2]
    | foreign _ => rfl

/-- The renaming after a name has been interned in both tables. -/
def intern (ρ : Renaming) (name : String) : Renaming where
  left := (ρ.left.intern name).2
  right := (ρ.right.intern name).2
  canonical_left := (ρ.left.extends_intern name).canonical ρ.canonical_left
  canonical_right := (ρ.right.extends_intern name).canonical ρ.canonical_right
  tag_left := (ρ.left.extends_intern name).tag.trans ρ.tag_left
  tag_right := (ρ.right.extends_intern name).tag.trans ρ.tag_right

theorem le_intern (ρ : Renaming) (name : String) : ρ ≤ ρ.intern name :=
  ⟨ρ.left.extends_intern name, ρ.right.extends_intern name⟩

/-- Symbols of one name that the tables know stand for each other. -/
theorem pairs_of_lookup? {name : String} (hs : ρ.left.lookup? name = some s)
    (hs' : ρ.right.lookup? name = some s') : ρ.Pairs s s' := by
  have hname : s.name = name := ρ.canonical_left.name_of_lookup? hs
  have hname' : s'.name = name := ρ.canonical_right.name_of_lookup? hs'
  rw [← hname, ← ρ.canonical_left.mem_symbols_iff] at hs
  rw [← hname', ← ρ.canonical_right.mem_symbols_iff] at hs'
  exact .own hs hs' (hname.trans hname'.symm)

theorem pairs_intern (ρ : Renaming) (name : String) :
    (ρ.intern name).Pairs (ρ.left.intern name).1 (ρ.right.intern name).1 :=
  pairs_of_lookup? (ρ.left.lookup?_intern name) (ρ.right.lookup?_intern name)

inductive Bodies (ρ : Renaming) : ProcBody → ProcBody → Prop
  | send {s s' : Symbol} (name : ρ.Pairs s s') : Bodies ρ (.send s) (.send s')
  | block (b : Block) : Bodies ρ (.block b) (.block b)

/-- Values that stand for each other. -/
inductive Values (ρ : Renaming) : Value → Value → Prop
  | nil : Values ρ .nil .nil
  | bool (b : Bool) : Values ρ (.bool b) (.bool b)
  | integer (n : Int64) : Values ρ (.integer n) (.integer n)
  | float (d : Double) : Values ρ (.float d) (.float d)
  | string (s : Str) : Values ρ (.string s) (.string s)
  | symbol {s s' : Symbol} (pairs : ρ.Pairs s s') : Values ρ (.symbol s) (.symbol s')
  | array (r : ℕ) : Values ρ (.array r) (.array r)
  | hash (r : ℕ) : Values ρ (.hash r) (.hash r)
  | regexp (r : Regexp) : Values ρ (.regexp r) (.regexp r)
  | matched (m : Match) : Values ρ (.matched m) (.matched m)
  | proc (id : ℕ) {b b' : ProcBody} (bodies : ρ.Bodies b b') (isLambda : Bool) :
    Values ρ (.proc ⟨id, b, isLambda⟩) (.proc ⟨id, b', isLambda⟩)
  | object (ref : ℕ) {cls cls' : Symbol} (pairs : ρ.Pairs cls cls') :
    Values ρ (.object ⟨ref, cls⟩) (.object ⟨ref, cls'⟩)

namespace Values

variable {v v' : Value}

theorem mono (hv : ρ.Values v v') (h : ρ ≤ σ) : σ.Values v v' := by
  cases hv with
  | symbol pairs => exact .symbol (pairs.mono h)
  | proc id bodies isLambda =>
    refine .proc id ?_ isLambda
    cases bodies with
    | send name => exact .send (name.mono h)
    | block b => exact .block b
  | object ref pairs => exact .object ref (pairs.mono h)
  | _ => constructor

theorem className_eq (hv : ρ.Values v v') : v.className = v'.className := by
  cases hv with
  | object ref pairs => exact pairs.name_eq
  | _ => rfl

theorem isTruthy_eq (hv : ρ.Values v v') : v.isTruthy = v'.isTruthy := by
  cases hv <;> rfl

theorem isNil_eq (hv : ρ.Values v v') : v.isNil = v'.isNil := by
  cases hv <;> rfl

end Values

abbrev Items (ρ : Renaming) : List Value → List Value → Prop := List.Forall₂ ρ.Values

theorem Items.mono {as as' : List Value} (has : ρ.Items as as') (h : ρ ≤ σ) : σ.Items as as' :=
  has.imp fun _ _ hv => hv.mono h

theorem Items.zip {as as' bs bs' : List Value} (has : ρ.Items as as') (hbs : ρ.Items bs bs') :
    List.Forall₂ (fun p p' => ρ.Values p.1 p'.1 ∧ ρ.Values p.2 p'.2) (as.zip bs) (as'.zip bs') := by
  induction has generalizing bs bs' with
  | nil => exact .nil
  | cons ha _ ih =>
    cases hbs with
    | nil => exact .nil
    | cons hb hbs => exact .cons ⟨ha, hb⟩ (ih hbs)

inductive Feeds (ρ : Renaming) : Feed → Feed → Prop
  | symbol {s s' : Symbol} (pairs : ρ.Pairs s s') : Feeds ρ (.symbol s.id) (.symbol s'.id)
  | other {f : Feed} (hf : ∀ i, f ≠ .symbol i) : Feeds ρ f f

theorem biUnique_feeds (ρ : Renaming) : Relator.BiUnique ρ.Feeds := by
  have hid : ∀ {a a' b b' : Symbol}, ρ.Pairs a a' → ρ.Pairs b b' →
      (a.id = b.id ↔ a'.id = b'.id) := by
    intro a a' b b' ha hb
    have hsame := ha.same_eq hb
    rwa [Symbol.same, Symbol.same, Bool.eq_iff_iff, beq_iff_eq, beq_iff_eq] at hsame
  constructor
  · intro f g k hf hg
    generalize hk : k = k' at hg
    cases hf with
    | symbol pairs =>
      cases hg with
      | symbol pairs' => rw [(hid pairs pairs').mpr (Feed.symbol.inj hk)]
      | other hne => exact absurd hk.symm (hne _)
    | other hne =>
      cases hg with
      | symbol pairs' => exact absurd hk (hne _)
      | other _ => exact hk
  · intro k f g hf hg
    generalize hk : k = k' at hg
    cases hf with
    | symbol pairs =>
      cases hg with
      | symbol pairs' => rw [(hid pairs pairs').mp (Feed.symbol.inj hk)]
      | other hne => exact absurd hk.symm (hne _)
    | other hne =>
      cases hg with
      | symbol pairs' => exact absurd hk (hne _)
      | other _ => exact hk

structure Arguments (ρ : Renaming) (args args' : Args) : Prop where
  items : ρ.Items args.items args'.items
  keywords : args.keywords = args'.keywords

theorem Arguments.mono {args args' : Args} (hargs : ρ.Arguments args args') (h : ρ ≤ σ) :
    σ.Arguments args args' :=
  ⟨hargs.items.mono h, hargs.keywords⟩

theorem Arguments.get? {args args' : Args} (hargs : ρ.Arguments args args') (i : ℕ) :
    Option.Rel ρ.Values (args.get? i) (args'.get? i) :=
  getElem?_of_forall₂ hargs.items i

structure Heaps (ρ : Renaming) (h h' : Heap) : Prop where
  arrays : List.Forall₂ ρ.Items h.arrays.toList h'.arrays.toList
  hashes : List.Forall₂ (Entries.Related ρ.Values ρ.Values) h.hashes.toList h'.hashes.toList
  objects : List.Forall₂ (Entries.Related ρ.Pairs ρ.Values) h.objects.toList h'.objects.toList
  names : Entries.Related (fun i i' => ∃ s s', ρ.Pairs s s' ∧ s.id = i ∧ s'.id = i') Eq
    h.strings.names h'.strings.names
  texts : h.strings.next = h'.strings.next
  next : h.next = h'.next
  address : h.address = h'.address

namespace Heaps

variable {h h' : Heap} {v v' w w' : Value} {held : Option ℕ}

theorem mono (hh : ρ.Heaps h h') (hle : ρ ≤ σ) : σ.Heaps h h' where
  arrays := hh.arrays.imp fun _ _ has => has.mono hle
  hashes := hh.hashes.imp fun _ _ hes => hes.imp fun _ _ he => ⟨he.1.mono hle, he.2.mono hle⟩
  objects := hh.objects.imp fun _ _ hes => hes.imp fun _ _ he => ⟨he.1.mono hle, he.2.mono hle⟩
  names := hh.names.imp fun _ _ ⟨⟨s, s', hs, hids⟩, he⟩ => ⟨⟨s, s', hs.mono hle, hids⟩, he⟩
  texts := hh.texts
  next := hh.next
  address := hh.address

theorem array (hh : ρ.Heaps h h') (r : ℕ) : ρ.Items (h.array r) (h'.array r) := by
  unfold Heap.array
  rw [← Array.getElem?_toList, ← Array.getElem?_toList]
  exact getD_of_rel (getElem?_of_forall₂ hh.arrays r) .nil

theorem hash (hh : ρ.Heaps h h') (r : ℕ) :
    Entries.Related ρ.Values ρ.Values (h.hash r) (h'.hash r) := by
  unfold Heap.hash
  rw [← Array.getElem?_toList, ← Array.getElem?_toList]
  exact getD_of_rel (getElem?_of_forall₂ hh.hashes r) .nil

theorem fields (hh : ρ.Heaps h h') (ref : ℕ) {cls cls' : Symbol} :
    Entries.Related ρ.Pairs ρ.Values (h.fields ⟨ref, cls⟩) (h'.fields ⟨ref, cls'⟩) := by
  unfold Heap.fields
  rw [← Array.getElem?_toList, ← Array.getElem?_toList]
  exact getD_of_rel (getElem?_of_forall₂ hh.objects ref) .nil

theorem depth_eq (hh : ρ.Heaps h h') : h.depth = h'.depth := by
  have harrays := hh.arrays.length_eq
  have hhashes := hh.hashes.length_eq
  have hobjects := hh.objects.length_eq
  simp only [Array.length_toList] at harrays hhashes hobjects
  rw [Heap.depth, Heap.depth, harrays, hhashes, hobjects]

theorem read? (hh : ρ.Heaps h h') (held : Option ℕ) (r : ℕ) :
    Option.Rel (Entries.Related ρ.Values ρ.Values) (h.read? held r) (h'.read? held r) := by
  unfold Heap.read?
  split
  · exact .none
  · exact .some (hh.hash r)

theorem feedStep (hh : ρ.Heaps h h') {feed feed' : Value → Option (List Feed)}
    (hfeed : ∀ v v', ρ.Values v v' → Option.Rel (List.Forall₂ ρ.Feeds) (feed v) (feed' v'))
    (hv : ρ.Values v v') :
    Option.Rel (List.Forall₂ ρ.Feeds) (h.feedStep held feed v) (h'.feedStep held feed' v') := by
  unfold Heap.feedStep
  cases hv with
  | symbol pairs => exact .some (.cons (.other (by simp)) (.cons (.symbol pairs) .nil))
  | array r =>
    have hitems := rel_mapM ((hh.array r).imp hfeed)
    dsimp only
    generalize (h.array r).mapM feed = x at hitems ⊢
    generalize (h'.array r).mapM feed' = x' at hitems ⊢
    cases hitems with
    | some hfed => exact .some (.cons (.other (by simp)) (List.rel_flatten hfed))
    | none => exact .none
  | hash r =>
    have hread := hh.read? held r
    dsimp only
    generalize h.read? held r = x at hread ⊢
    generalize h'.read? held r = x' at hread ⊢
    cases hread with
    | some hes => exact .some (hes.length_eq ▸ List.forall₂_same.mpr (by simp [Feeds.other]))
    | none => exact .none
  | _ => exact .some (List.forall₂_same.mpr (by simp [Feeds.other]))

theorem feed? (hh : ρ.Heaps h h') (held : Option ℕ) (hv : ρ.Values v v') :
    Option.Rel (List.Forall₂ ρ.Feeds) (h.feed? held v) (h'.feed? held v') := by
  rw [Heap.feed?, Heap.feed?, hh.depth_eq]
  exact unroll_rel (R := ρ.Values) (P := Option.Rel (List.Forall₂ ρ.Feeds)) .none
    (fun _ _ hfeed _ _ => hh.feedStep hfeed) _ hv

theorem isKey?_eq (hh : ρ.Heaps h h') (held : Option ℕ) {rel rel' : Value × Value → Option Bool}
    (hrel : ∀ {k k'}, ρ.Values k k' → rel (v, k) = rel' (v', k')) {fed fed' : List Feed}
    (hfed : List.Forall₂ ρ.Feeds fed fed') (hw : ρ.Values w w') :
    h.isKey? held rel v fed w = h'.isKey? held rel' v' fed' w' := by
  have hsame : h.feed? held w = some fed ↔ h'.feed? held w' = some fed' := by
    have hfeed := hh.feed? held hw
    generalize h.feed? held w = x at hfeed ⊢
    generalize h'.feed? held w' = x' at hfeed ⊢
    cases hfeed with
    | some hfs =>
      rw [Option.some_inj, Option.some_inj]; exact Relator.rel_eq ρ.biUnique_feeds.forall₂ hfs hfed
    | none => simp
  unfold Heap.isKey?
  rw [hrel hw]
  simp only [hsame]

/-- What a key feeds shows where symbols stand in their tables, but two keys feed the same in both
heaps or in none. -/
theorem lookUp? (hh : ρ.Heaps h h') (held : Option ℕ) {rel rel' : Value × Value → Option Bool}
    (hrel : ∀ {k k'}, ρ.Values k k' → rel (v, k) = rel' (v', k')) (hv : ρ.Values v v')
    {es es' : List (Value × Value)} (hes : Entries.Related ρ.Values ρ.Values es es') :
    Option.Rel (Option.Rel ρ.Values) (h.lookUp? held rel v es) (h'.lookUp? held rel' v' es') := by
  unfold Heap.lookUp?
  rw [hes.length_eq]
  split
  · exact hes.find? hrel
  · have hfed := hh.feed? held hv
    generalize h.feed? held v = x at hfed ⊢
    generalize h'.feed? held v' = x' at hfed ⊢
    cases hfed with
    | some hfed => exact hes.find? fun hk => hh.isKey?_eq held hrel hfed hk
    | none => exact .none

theorem isFound?_eq (hh : ρ.Heaps h h') (held : Option ℕ) {rel rel' : Value × Value → Option Bool}
    (hrel : ∀ p p', ρ.Values p.1 p'.1 ∧ ρ.Values p.2 p'.2 → rel p = rel' p')
    {es es' : List (Value × Value)} (hes : Entries.Related ρ.Values ρ.Values es es')
    {e e' : Value × Value} (he : ρ.Values e.1 e'.1 ∧ ρ.Values e.2 e'.2) :
    h.isFound? held rel es e = h'.isFound? held rel' es' e' := by
  have hfound := hh.lookUp? held (fun hk => hrel _ _ ⟨he.1, hk⟩) he.1 hes
  unfold Heap.isFound?
  generalize h.lookUp? held rel e.1 es = x at hfound ⊢
  generalize h'.lookUp? held rel' e'.1 es' = x' at hfound ⊢
  cases hfound with
  | none => rfl
  | some hfound =>
    cases hfound with
    | none => rfl
    | some hw => exact hrel _ _ ⟨hw, he.2⟩

theorem eqlStep_eq (hh : ρ.Heaps h h') (held : Option ℕ) {rel rel' : Value × Value → Option Bool}
    (hrel : ∀ p p', ρ.Values p.1 p'.1 ∧ ρ.Values p.2 p'.2 → rel p = rel' p') (hv : ρ.Values v v')
    (hw : ρ.Values w w') : h.eqlStep held rel (v, w) = h'.eqlStep held rel' (v', w') := by
  cases hv with
  | symbol hs =>
    cases hw with
    | symbol ht => exact congrArg some (hs.same_eq ht)
    | _ => rfl
  | array r =>
    cases hw with
    | array q =>
      have hitems := all?_eq_of_forall₂ (((hh.array r).zip (hh.array q)).imp hrel)
      simp only [Heap.eqlStep, (hh.array r).length_eq, (hh.array q).length_eq, hitems]
    | _ => rfl
  | hash r =>
    cases hw with
    | hash q =>
      have hread := hh.read? held r
      have hread' := hh.read? held q
      simp only [Heap.eqlStep]
      generalize h.read? held r = x at hread ⊢
      generalize h'.read? held r = x' at hread ⊢
      generalize h.read? held q = y at hread' ⊢
      generalize h'.read? held q = y' at hread' ⊢
      cases hread with
      | none => rfl
      | some hes =>
        cases hread' with
        | none => rfl
        | some hfs =>
          have hfound := all?_eq_of_forall₂ (hes.imp fun _ _ he => hh.isFound?_eq held hrel hfs he)
          simp only [Option.bind_eq_bind, Option.bind_some, hes.length_eq, hfs.length_eq, hfound]
    | _ => rfl
  | _ => cases hw <;> rfl

theorem eql?_eq (hh : ρ.Heaps h h') (held : Option ℕ) (hv : ρ.Values v v') (hw : ρ.Values w w') :
    h.eql? held v w = h'.eql? held v' w' := by
  rw [Heap.eql?, Heap.eql?, hh.depth_eq]
  exact unroll_rel (R := fun p p' => ρ.Values p.1 p'.1 ∧ ρ.Values p.2 p'.2) rfl
    (fun _ _ hrel _ _ hp => hh.eqlStep_eq held hrel hp.1 hp.2) _ ⟨hv, hw⟩

theorem eql_eq (hh : ρ.Heaps h h') (hv : ρ.Values v v') (hw : ρ.Values w w') :
    h.eql v w = h'.eql v' w' := by
  rw [Heap.eql, Heap.eql, hh.eql?_eq none hv hw]

theorem same_eq (hh : ρ.Heaps h h') (hv : ρ.Values v v') (hw : ρ.Values w w') :
    h.same v w = h'.same v' w' := by
  have heql := hh.eql_eq hv hw
  cases hv <;> cases hw <;> first | rfl | exact heql

theorem literal?_eq (hh : ρ.Heaps h h') {text text' : Value → Option String}
    (htext : ∀ v v', ρ.Values v v' → text v = text' v') (hv : ρ.Values v v') :
    h.literal? text v = h'.literal? text' v' := by
  cases hv with
  | symbol hs => exact congrArg some (Symbol.inspect_congr hs.name_eq)
  | proc id _ isLambda =>
    rw [Heap.literal?, Heap.literal?, Heap.inspectProc, Heap.inspectProc, hh.address]
  | array r => rw [Heap.literal?, Heap.literal?, mapM_eq_of_forall₂ ((hh.array r).imp htext)]
  | hash r =>
    rw [Heap.literal?, Heap.literal?, mapM_eq_of_forall₂ ((hh.hash r).imp fun e e' he => ?_)]
    simp only [htext _ _ he.1, htext _ _ he.2]
  | @object ref cls cls' hcls =>
    have hfields : Entries.Related ρ.Pairs ρ.Values (h.fields ⟨ref, cls⟩) (h'.fields ⟨ref, cls'⟩) :=
      hh.fields ref
    rw [Heap.literal?, Heap.literal?, hcls.name_eq,
      mapM_eq_of_forall₂ (hfields.imp fun e e' he => ?_)]
    simp only [he.1.name_eq, htext _ _ he.2]
  | _ => rfl

theorem inspect?_eq (hh : ρ.Heaps h h') (hv : ρ.Values v v') : h.inspect? v = h'.inspect? v' := by
  rw [Heap.inspect?, Heap.inspect?, hh.depth_eq]
  exact unroll_rel (R := ρ.Values) rfl (fun _ _ htext _ _ => hh.literal?_eq htext) _ hv

theorem display?_eq (hh : ρ.Heaps h h') (hv : ρ.Values v v') : h.display? v = h'.display? v' := by
  have hinspect := hh.inspect?_eq hv
  cases hv with
  | symbol hs => exact congrArg some hs.name_eq
  | _ => first | rfl | exact hinspect

theorem hashGet? (hh : ρ.Heaps h h') (r : ℕ) (hv : ρ.Values v v') :
    Option.Rel (Option.Rel ρ.Values) (h.hashGet? r v) (h'.hashGet? r v') :=
  hh.lookUp? none (fun hk => hh.eql?_eq none hv hk) hv (hh.hash r)

theorem field? (hh : ρ.Heaps h h') (ref : ℕ) {cls cls' : Symbol} (hs : ρ.Pairs s s') :
    Option.Rel ρ.Values (h.field? ⟨ref, cls⟩ s) (h'.field? ⟨ref, cls'⟩ s') :=
  (hh.fields ref).get? fun hk => hk.same_eq hs

theorem name?_eq (hh : ρ.Heaps h h') (hs : ρ.Pairs s s') :
    h.strings.name? s = h'.strings.name? s' := by
  unfold StringStore.name?
  have hnames := hh.names
  generalize h.strings.names = es at hnames ⊢
  generalize h'.strings.names = es' at hnames ⊢
  induction hnames with
  | nil => rfl
  | @cons e e' _ _ he _ ih =>
    obtain ⟨⟨t, t', ht, htid, htid'⟩, hstr⟩ := he
    have hkey : (s.id == e.1) = (s'.id == e'.1) := htid ▸ htid' ▸ hs.same_eq ht
    rw [List.lookup_cons, List.lookup_cons, hkey, hstr, ih]

theorem empty (ρ : Renaming) : ρ.Heaps .empty .empty :=
  ⟨.nil, .nil, .nil, .nil, rfl, rfl, rfl⟩

theorem newString (hh : ρ.Heaps h h') (text : String) :
    (h.newString text).1 = (h'.newString text).1 ∧
    ρ.Heaps (h.newString text).2 (h'.newString text).2 := by
  refine ⟨congrArg (Str.mk · text) hh.texts, ?_⟩
  exact { hh with texts := congrArg (· + 1) hh.texts }

theorem nameString (hh : ρ.Heaps h h') (hs : ρ.Pairs s s') :
    (h.nameString s).1 = (h'.nameString s').1 ∧
    ρ.Heaps (h.nameString s).2 (h'.nameString s').2 := by
  unfold Heap.nameString StringStore.nameOf
  rw [hh.name?_eq hs]
  cases h'.strings.name? s' with
  | some str => exact ⟨rfl, hh⟩
  | none =>
    have hstr : (h.strings.new s.name).1 = (h'.strings.new s'.name).1 := by
      rw [hs.name_eq]
      exact congrArg (Str.mk · s'.name) hh.texts
    refine ⟨hstr, ?_⟩
    exact { hh with
      names := .cons ⟨⟨s, s', hs, rfl, rfl⟩, hstr⟩ hh.names
      texts := congrArg (· + 1) hh.texts }

theorem fresh (hh : ρ.Heaps h h') : h.fresh.1 = h'.fresh.1 ∧ ρ.Heaps h.fresh.2 h'.fresh.2 :=
  ⟨hh.next, { hh with next := congrArg (· + 1) hh.next }⟩

theorem newArray (hh : ρ.Heaps h h') {as as' : List Value} (has : ρ.Items as as') :
    (h.newArray as).1 = (h'.newArray as').1 ∧ ρ.Heaps (h.newArray as).2 (h'.newArray as').2 := by
  refine ⟨hh.arrays.length_eq, { hh with arrays := ?_ }⟩
  simp only [Heap.newArray, Array.toList_push]
  exact List.rel_append hh.arrays (.cons has .nil)

theorem setArray (hh : ρ.Heaps h h') (r : ℕ) {as as' : List Value} (has : ρ.Items as as') :
    ρ.Heaps (h.setArray r as) (h'.setArray r as') := by
  refine { hh with arrays := ?_ }
  simp only [Heap.setArray, Array.toList_setIfInBounds]
  exact set_of_forall₂ hh.arrays has r

theorem insert? (hh : ρ.Heaps h h') (held : Option ℕ) (hv : ρ.Values v v') (hw : ρ.Values w w')
    {es es' : List (Value × Value)} (hes : Entries.Related ρ.Values ρ.Values es es') :
    Option.Rel (Entries.Related ρ.Values ρ.Values) (h.insert? held v w es)
      (h'.insert? held v' w' es') := by
  have hfed := hh.feed? held hv
  unfold Heap.insert?
  generalize h.feed? held v = x at hfed ⊢
  generalize h'.feed? held v' = x' at hfed ⊢
  cases hfed with
  | some hfed =>
    exact hes.insert? (fun hk => hh.isKey?_eq held (fun hk => hh.eql?_eq held hv hk) hfed hk) hv hw
  | none => exact .none

theorem setHash (hh : ρ.Heaps h h') (r : ℕ) {es es' : List (Value × Value)}
    (hes : Entries.Related ρ.Values ρ.Values es es') :
    ρ.Heaps (h.setHash r es) (h'.setHash r es') := by
  refine { hh with hashes := ?_ }
  simp only [Heap.setHash, Array.toList_setIfInBounds]
  exact set_of_forall₂ hh.hashes hes r

theorem newHash (hh : ρ.Heaps h h') {es es' : List (Value × Value)}
    (hes : Entries.Related ρ.Values ρ.Values es es') :
    (h.newHash es).1 = (h'.newHash es').1 ∧ ρ.Heaps (h.newHash es).2 (h'.newHash es').2 := by
  refine ⟨hh.hashes.length_eq, { hh with hashes := ?_ }⟩
  simp only [Heap.newHash, Array.toList_push]
  exact List.rel_append hh.hashes (.cons hes .nil)

theorem stored? (hh : ρ.Heaps h h') (r : ℕ) (hv : ρ.Values v v') (hw : ρ.Values w w') :
    Option.Rel (Entries.Related ρ.Values ρ.Values) (h.stored? r v w) (h'.stored? r v' w') :=
  hh.insert? (some r) hv hw (hh.hash r)

theorem foldlM_insert? (hh : ρ.Heaps h h') {ps ps' es es' : List (Value × Value)}
    (hps : Entries.Related ρ.Values ρ.Values ps ps')
    (hes : Entries.Related ρ.Values ρ.Values es es') :
    Option.Rel (Entries.Related ρ.Values ρ.Values)
      (ps.foldlM (fun entries (k, v) => h.insert? none k v entries) es)
      (ps'.foldlM (fun entries (k, v) => h'.insert? none k v entries) es') := by
  induction hps generalizing es es' with
  | nil => exact .some hes
  | @cons p p' _ _ hp _ ih =>
    have hput := hh.insert? none hp.1 hp.2 hes
    rw [List.foldlM_cons, List.foldlM_cons]
    dsimp only
    generalize h.insert? none p.1 p.2 es = x at hput ⊢
    generalize h'.insert? none p'.1 p'.2 es' = x' at hput ⊢
    cases hput with
    | some hes => exact ih hes
    | none => exact .none

theorem hashOf? (hh : ρ.Heaps h h') {ps ps' : List (Value × Value)}
    (hps : Entries.Related ρ.Values ρ.Values ps ps') :
    Option.Rel (fun made made' => made.1 = made'.1 ∧ ρ.Heaps made.2 made'.2) (h.hashOf? ps)
      (h'.hashOf? ps') := by
  have hes := hh.foldlM_insert? hps .nil
  unfold Heap.hashOf?
  generalize ps.foldlM (fun entries (k, v) => h.insert? none k v entries) [] = x at hes ⊢
  generalize ps'.foldlM (fun entries (k, v) => h'.insert? none k v entries) [] = x' at hes ⊢
  cases hes with
  | some hes => exact .some (hh.newHash hes)
  | none => exact .none

theorem newObject (hh : ρ.Heaps h h') {cls cls' : Symbol} (hcls : ρ.Pairs cls cls')
    {fs fs' : List (Symbol × Value)} (hfs : Entries.Related ρ.Pairs ρ.Values fs fs') :
    ρ.Values (.object (h.newObject cls fs).1) (.object (h'.newObject cls' fs').1) ∧
      ρ.Heaps (h.newObject cls fs).2 (h'.newObject cls' fs').2 := by
  have hsize : h.objects.size = h'.objects.size := hh.objects.length_eq
  refine ⟨?_, { hh with objects := ?_ }⟩
  · simp only [Heap.newObject, hsize]
    exact .object _ hcls
  · simp only [Heap.newObject, Array.toList_push]
    refine List.rel_append hh.objects (.cons (List.rel_foldl ?_ .nil hfs) .nil)
    exact fun _ _ hes _ _ he => hes.put (fun hk => hk.same_eq he.1) he.1 he.2

theorem setField (hh : ρ.Heaps h h') (ref : ℕ) {cls cls' : Symbol} (hs : ρ.Pairs s s')
    (hv : ρ.Values v v') : ρ.Heaps (h.setField ⟨ref, cls⟩ s v) (h'.setField ⟨ref, cls'⟩ s' v') := by
  refine { hh with objects := ?_ }
  simp only [Heap.setField, Array.toList_setIfInBounds]
  exact set_of_forall₂ hh.objects ((hh.fields ref).put (fun hk => hk.same_eq hs) hs hv) ref

end Heaps

end Renaming

end LateBinding
