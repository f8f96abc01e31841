import LateBinding.Proofs.Method.Likeness
import LateBinding.Proofs.Text.Collation

/-! # Comparisons of names

Symbols and strings are compared by code points, in a total order whose equality is that of texts,
and of symbols. The caseless comparison of symbols comes to the same as deriving a symbol from each
in lower case, or in upper case, and comparing those.
-/

namespace LateBinding

open Eval

variable {c : Config} {m m₀ m' : Machine} {host : Host} {n : ℕ} {defs ds : List Definition}
  {cls name : String} {method : Method} {a b s option : Symbol} {t u : Str} {keywords : Bool}

theorem Eval.ordering_eq_iff {o : Ordering} : ordering o = integer 0 ↔ o = .eq := by
  cases o <;> decide

instance : Std.TransCmp Symbol.compareCaseless where
  eq_swap := by
    intro a b
    exact Std.OrientedCmp.eq_swap (a := a.name) (b := b.name)
  isLE_trans := by
    intro a b c
    exact Std.TransCmp.isLE_trans (a := a.name) (b := b.name) (c := c.name)

/-- The messages for casing, with the methods of symbols and of strings and what they make of a
text. -/
def SymbolMethod.casings : List (String × SymbolMethod × StringMethod × (String → String)) :=
  [("downcase", .downcase, .downcase, Casing.ascii.downcase),
    ("upcase", .upcase, .upcase, Casing.ascii.upcase)]

theorem StringMethod.casing_ascii (hoption : option.name = "ascii") :
    casing ⟨[.symbol option], keywords⟩ m = .ok .ascii m := by
  have hof : casingOf .full [.symbol option] m = .ok .ascii m := by
    unfold casingOf
    rw [if_pos hoption]
    rfl
  unfold casing
  rw [check_bind]
  exact hof

section Casing

variable {k : String × SymbolMethod × StringMethod × (String → String)}
  (hk : k ∈ SymbolMethod.casings)

include hk

theorem SymbolMethod.casings_derive : (k.2.1, k.1, k.2.2.1) ∈ derivations := by
  simp only [casings, List.mem_cons, List.not_mem_nil, or_false] at hk
  rcases hk with rfl | rfl <;> decide

theorem StringMethod.derive_ascii (hoption : option.name = "ascii") (text : String) :
    k.2.2.1.derive text ⟨[.symbol option], keywords⟩ m = settle (.ok (k.2.2.2 text)) m := by
  have hcasing : casing ⟨[.symbol option], keywords⟩ m = _ := casing_ascii hoption
  simp only [SymbolMethod.casings, List.mem_cons, List.not_mem_nil, or_false] at hk
  rcases hk with rfl | rfl
  · exact bind_of_ok hcasing
  · exact bind_of_ok hcasing

theorem SymbolMethod.casings_eq_iff :
    k.2.2.2 a.name = k.2.2.2 b.name ↔ a.compareCaseless b = .eq := by
  rw [Symbol.compareCaseless, TextOrder.compareCaseless_eq_eq_iff]
  simp only [casings, List.mem_cons, List.not_mem_nil, or_false] at hk
  rcases hk with rfl | rfl
  · exact Iff.rfl
  · exact TextOrder.upcase_eq_iff

end Casing

def SymbolMethod.comparisons : List (String × SymbolMethod × (Symbol → Symbol → Value)) :=
  [("<=>", .compare, fun a b => ordering (a.compareNames b)),
    ("==", .equal, fun a b => .bool (b.same a)),
   ("casecmp", .caseless, fun a b => ordering (a.compareCaseless b)),
   ("casecmp?", .equalCaseless, fun a b => .bool (a.eqCaseless b))]

def StringMethod.comparisons : List (String × StringMethod × (String → String → Value)) :=
  [("<=>", .compare, fun text text' => ordering (TextOrder.compare text text')),
   ("==", .equal, fun text text' => .bool (text' == text))]

theorem SymbolMethod.run_comparison {k : String × SymbolMethod × (Symbol → Symbol → Value)}
    (hk : k ∈ comparisons) (send : Sender) :
    k.2.1.run send (.symbol a) ⟨[.symbol b], keywords⟩ = pure (k.2.2 a b) := by
  simp only [comparisons, List.mem_cons, List.not_mem_nil, or_false] at hk
  rcases hk with rfl | rfl | rfl | rfl <;> rfl

theorem StringMethod.run_comparison {k : String × StringMethod × (String → String → Value)}
    (hk : k ∈ comparisons) (send : Sender) :
    k.2.1.run send (.string t) ⟨[.string u], keywords⟩ = pure (k.2.2 t.text u.text) := by
  simp only [comparisons, List.mem_cons, List.not_mem_nil, or_false] at hk
  rcases hk with rfl | rfl <;> rfl

def Builtin.namings : List String := ["<=>", "==", "casecmp", "casecmp?", "downcase", "upcase"]

def SparesNamings (ds : List Definition) : Prop :=
  ∀ cls ∈ ["Symbol", "String"], ∀ name ∈ Builtin.namings, ∀ method, ((cls, name), method) ∉ ds

theorem SparesNamings.lastDefined_eq (hds : SparesNamings ds) (hcls : cls ∈ ["Symbol", "String"])
    (hname : name ∈ Builtin.namings) :
    lastDefined (Builtin.definitions ++ ds) cls name = lastDefined Builtin.definitions cls name :=
  lastDefined_append (hds cls hcls name hname)

section Defined

variable (hds : SparesNamings ds)

include hds

theorem SparesNamings.symbol_comparison {k : String × SymbolMethod × (Symbol → Symbol → Value)}
    (hk : k ∈ SymbolMethod.comparisons) :
    lastDefined (Builtin.definitions ++ ds) "Symbol" k.1 = some (.builtin (.symbol k.2.1)) := by
  simp only [SymbolMethod.comparisons, List.mem_cons, List.not_mem_nil, or_false] at hk
  rcases hk with rfl | rfl | rfl | rfl <;>
    exact (hds.lastDefined_eq (by decide) (by decide)).trans (by decide)

theorem SparesNamings.string_comparison {k : String × StringMethod × (String → String → Value)}
    (hk : k ∈ StringMethod.comparisons) :
    lastDefined (Builtin.definitions ++ ds) "String" k.1 = some (.builtin (.string k.2.1)) := by
  simp only [StringMethod.comparisons, List.mem_cons, List.not_mem_nil, or_false] at hk
  rcases hk with rfl | rfl <;> exact (hds.lastDefined_eq (by decide) (by decide)).trans (by decide)

theorem SparesNamings.casing {k : String × SymbolMethod × StringMethod × (String → String)}
    (hk : k ∈ SymbolMethod.casings) :
    lastDefined (Builtin.definitions ++ ds) "Symbol" k.1 = some (.builtin (.symbol k.2.1)) ∧
      lastDefined (Builtin.definitions ++ ds) "String" k.1 = some (.builtin (.string k.2.2.1)) := by
  simp only [SymbolMethod.casings, List.mem_cons, List.not_mem_nil, or_false] at hk
  rcases hk with rfl | rfl <;>
    exact ⟨(hds.lastDefined_eq (by decide) (by decide)).trans (by decide),
      (hds.lastDefined_eq (by decide) (by decide)).trans (by decide)⟩

end Defined

namespace Machine

section Replies

variable (hd : m.Defines (Builtin.definitions ++ ds)) (host : Host) (hds : SparesNamings ds)

include hd hds

theorem Defines.reply_symbols {k : String × SymbolMethod × (Symbol → Symbol → Value)}
    (hk : k ∈ SymbolMethod.comparisons) (n : ℕ) (a b : Symbol) (keywords : Bool) :
    reply host n (.symbol a) k.1 ⟨[.symbol b], keywords⟩ m =
      .ok (k.2.2 a b) m.countHit.countHit := by
  rw [hd.reply_symbol_eq (hds.symbol_comparison hk)]
  exact congrFun (SymbolMethod.run_comparison hk _) _

theorem Defines.reply_strings {k : String × StringMethod × (String → String → Value)}
    (hk : k ∈ StringMethod.comparisons) (n : ℕ) (t u : Str) (keywords : Bool) :
    reply host n (.string t) k.1 ⟨[.string u], keywords⟩ m =
      .ok (k.2.2 t.text u.text) m.countHit.countHit := by
  rw [hd.reply_string_eq (hds.string_comparison hk)]
  exact congrFun (StringMethod.run_comparison hk _) _

theorem Defines.exists_reply_casing {k : String × SymbolMethod × StringMethod × (String → String)}
    (hk : k ∈ SymbolMethod.casings) (hoption : option.name = "ascii") (n : ℕ) (s : Symbol)
    (keywords : Bool) :
    ∃ x m', reply host (n + 1) (.symbol s) k.1 ⟨[.symbol option], keywords⟩ m = .ok (.symbol x) m' ∧
      x.name = k.2.2.2 s.name ∧ x ∈ m'.symbols.symbols ∧ m.Extends m' := by
  obtain ⟨hsymbol, hstring⟩ := hds.casing hk
  have hderive := SymbolMethod.casings_derive hk
  set m₁ := m.countHit.countHit
  set m₂ := (newString s.name).after m₁
  have hext₂ : m.Extends m₂ := Frame.trans m.extends_countHit_countHit (Frame.heap m₁ _)
  have hd₂ := hd.extends hext₂
  set m₃ := m₂.countHit.countHit
  -- the name is left to a string, for which a method is found once more
  have hnested : (sendWithin host (n + 1)).byName (.string (m₁.heap.newString s.name).1) k.1
      ⟨[.symbol option], keywords⟩ m₂ = (settle (.ok (k.2.2.2 s.name)) >>= newString) m₃ := by
    refine (hd₂.reply_string_eq hstring).trans ?_
    change k.2.2.1.run _ _ _ m₃ = _
    rw [StringMethod.run_derive hderive]
    exact bind_congr_at (StringMethod.derive_ascii hk hoption s.name)
  have hreply : reply host (n + 1) (.symbol s) k.1 ⟨[.symbol option], keywords⟩ m =
      internDerived (.ok (k.2.2.2 s.name)) m₃ := by
    rw [hd.reply_symbol_eq hsymbol, ← SymbolMethod.transform_eq hnested]
    exact congrFun (SymbolMethod.run_derive hderive _ s _) m₁
  have hext : m.Extends ((newString (k.2.2.2 s.name)).after m₃) :=
    Frame.trans (Frame.trans hext₂ m₂.extends_countHit_countHit) (Frame.heap m₃ _)
  obtain ⟨hname, hmem⟩ := (hd.extends hext).symbol_of_intern (k.2.2.2 s.name)
  exact ⟨_, _, hreply, hname, hmem, Frame.trans hext (keeps_intern (k.2.2.2 s.name) _)⟩

end Replies

/-- The answers of two symbols to a message are one symbol, however the machine goes on in
between. -/
def AnswerSame (host : Host) (n : ℕ) (message : String) (args : Args) (a b : Symbol) (m : Machine) :
    Prop :=
  ∃ x m₁, reply host n (.symbol a) message args m = .ok (.symbol x) m₁ ∧
    ∀ m₂, m₁.Extends m₂ → ∃ y m₃,
      reply host n (.symbol b) message args m₂ = .ok (.symbol y) m₃ ∧ x.same y = true

theorem Defines.answerSame_iff (hd : m.Defines (Builtin.definitions ++ ds)) (hds : SparesNamings ds)
    {k : String × SymbolMethod × StringMethod × (String → String)} (hk : k ∈ SymbolMethod.casings)
    (hoption : option.name = "ascii") :
    AnswerSame host (n + 1) k.1 ⟨[.symbol option], keywords⟩ a b m ↔ a.compareCaseless b = .eq := by
  rw [← SymbolMethod.casings_eq_iff hk]
  obtain ⟨x, m₁, hreply, hname, hmem, hext⟩ :=
    hd.exists_reply_casing host hds hk hoption n a keywords
  have hd₁ := hd.extends hext
  -- one of the two is answered later, by a machine that still has the first
  have hlater : ∀ m₂, m₁.Extends m₂ → ∃ y m₃,
      reply host (n + 1) (.symbol b) k.1 ⟨[.symbol option], keywords⟩ m₂ = .ok (.symbol y) m₃ ∧
        (x.same y = true ↔ k.2.2.2 a.name = k.2.2.2 b.name) := by
    intro m₂ hext₂
    have hd₂ := hd₁.extends hext₂
    obtain ⟨y, m₃, hreply', hname', hmem', hext₃⟩ :=
      hd₂.exists_reply_casing host hds hk hoption n b keywords
    refine ⟨y, m₃, hreply', ?_⟩
    have hmem₃ := hext₃.symbols.mem_symbols (hext₂.symbols.mem_symbols hmem)
    rw [(hd₂.extends hext₃).canonical.same_iff hmem₃ hmem', hname, hname']
  constructor
  · rintro ⟨x', m₁', hreply', hall⟩
    obtain ⟨hx, rfl⟩ := EStateM.Result.ok.inj (hreply.symm.trans hreply')
    obtain rfl := Value.symbol.inj hx
    obtain ⟨y, m₃, hy, hsame⟩ := hall m₁ (Frame.refl m₁)
    obtain ⟨y', m₃', hy', hiff⟩ := hlater m₁ (Frame.refl m₁)
    obtain ⟨hyy, rfl⟩ := EStateM.Result.ok.inj (hy.symm.trans hy')
    obtain rfl := Value.symbol.inj hyy
    exact hiff.mp hsame
  · intro heq
    refine ⟨x, m₁, hreply, fun m₂ hext₂ => ?_⟩
    obtain ⟨y, m₃, hy, hiff⟩ := hlater m₂ hext₂
    exact ⟨y, m₃, hy, hiff.mpr heq⟩

/-- Names are compared by their UTF-8 bytes, which are in the order of the code points: a total
order in which only equal names are equal, that is the same symbols of one table, and equal
strings. -/
structure OrdersNames (host : Host) (m : Machine) : Prop where
  bytes : ∀ text text', TextOrder.compare text text' =
    Ord.compare (Utf8.encode text.toList) (Utf8.encode text'.toList)
  codePoints : ∀ text text', TextOrder.compare text text' =
    Ord.compare (TextOrder.codePoints text) (TextOrder.codePoints text')
  total : Std.TransCmp TextOrder.compare
  equal : ∀ text text', TextOrder.compare text text' = .eq ↔ text = text'
  symbols : ∀ n a b keywords, reply host n (.symbol a) "<=>" ⟨[.symbol b], keywords⟩ m =
    .ok (ordering (TextOrder.compare a.name b.name)) m.countHit.countHit
  same : ∀ a ∈ m.symbols.symbols, ∀ b ∈ m.symbols.symbols, a.compareNames b = .eq ↔ a.same b = true
  strings : ∀ n t u keywords, reply host n (.string t) "<=>" ⟨[.string u], keywords⟩ m =
    .ok (ordering (TextOrder.compare t.text u.text)) m.countHit.countHit
  equalStrings : ∀ n t u keywords, reply host n (.string t) "==" ⟨[.string u], keywords⟩ m =
    .ok (.bool (TextOrder.compare t.text u.text == .eq)) m.countHit.countHit

/-- Symbols are compared without regard to case by their names with the ASCII capitals lowered: a
total preorder, whose equivalence is told alike by all that the machine answers to. -/
structure OrdersCaseless (host : Host) (m : Machine) : Prop where
  lowered : ∀ a b : Symbol, a.compareCaseless b =
    TextOrder.compare (Casing.ascii.downcase a.name) (Casing.ascii.downcase b.name)
  preorder : Std.TransCmp Symbol.compareCaseless
  antisymm : ∀ a b : Symbol, (a.compareCaseless b).isLE = true → (b.compareCaseless a).isLE = true →
    Casing.ascii.downcase a.name = Casing.ascii.downcase b.name
  symbols : ∀ n a b keywords, reply host n (.symbol a) "casecmp" ⟨[.symbol b], keywords⟩ m =
    .ok (ordering (a.compareCaseless b)) m.countHit.countHit
  casing : ∀ k ∈ SymbolMethod.casings, ∀ option : Symbol, option.name = "ascii" →
    ∀ n a keywords, ∃ x m',
    reply host (n + 1) (.symbol a) k.1 ⟨[.symbol option], keywords⟩ m = .ok (.symbol x) m' ∧
      x.name = k.2.2.2 a.name
  equivalent : ∀ option : Symbol, option.name = "ascii" → ∀ n a b keywords,
    [a.compareCaseless b = .eq,
      a.eqCaseless b = true,
      reply host n (.symbol a) "casecmp" ⟨[.symbol b], keywords⟩ m =
        .ok (integer 0) m.countHit.countHit,
      reply host n (.symbol a) "casecmp?" ⟨[.symbol b], keywords⟩ m =
        .ok (.bool true) m.countHit.countHit,
      AnswerSame host (n + 1) "downcase" ⟨[.symbol option], keywords⟩ a b m,
      AnswerSame host (n + 1) "upcase" ⟨[.symbol option], keywords⟩ a b m].TFAE

section Orders

variable (hd : m.Defines (Builtin.definitions ++ ds)) (hds : SparesNamings ds)

include hd hds

theorem Defines.ordersNames : OrdersNames host m where
  bytes _ _ := TextOrder.compareBytes_eq _ _
  codePoints := TextOrder.compare_eq_codePoints
  total := inferInstance
  equal _ _ := TextOrder.compare_eq_eq_iff
  symbols := hd.reply_symbols host hds (k := ("<=>", _, _)) (.head _)
  same a ha b hb := by
    rw [hd.canonical.same_iff ha hb]
    exact TextOrder.compare_eq_eq_iff
  strings := hd.reply_strings host hds (k := ("<=>", _, _)) (.head _)
  equalStrings n t u keywords := by
    have hiff : (u.text == t.text) = (TextOrder.compare t.text u.text == .eq) := by
      rw [Bool.eq_iff_iff, beq_iff_eq, beq_iff_eq, eq_comm, TextOrder.compare_eq_eq_iff]
    rw [← hiff]
    exact hd.reply_strings host hds (k := ("==", _, _)) (.tail _ (.head _)) n t u keywords

theorem Defines.ordersCaseless : OrdersCaseless host m where
  lowered a b := TextOrder.compareCaseless_eq a.name b.name
  preorder := inferInstance
  antisymm a b hle hge := by
    rw [← TextOrder.compareCaseless_eq_eq_iff]
    exact Std.OrientedCmp.isLE_antisymm hle hge
  symbols := hd.reply_symbols host hds (k := ("casecmp", .caseless, _))
    (.tail _ (.tail _ (.head _)))
  casing k hk option hoption n a keywords := by
    obtain ⟨x, m', hreply, hname, -, -⟩ := hd.exists_reply_casing host hds hk hoption n a keywords
    exact ⟨x, m', hreply, hname⟩
  equivalent option hoption n a b keywords := by
    have hcaseless := hd.reply_symbols host hds (k := ("casecmp", .caseless, _))
      (.tail _ (.tail _ (.head _))) n a b keywords
    have hequal := hd.reply_symbols host hds (k := ("casecmp?", .equalCaseless, _))
      (.tail _ (.tail _ (.tail _ (.head _)))) n a b keywords
    tfae_have 1 ↔ 2 := TextOrder.eqCaseless_iff.symm
    tfae_have 1 ↔ 3 := by
      rw [hcaseless, EStateM.Result.ok.injEq, ordering_eq_iff, and_iff_left rfl]
    tfae_have 2 ↔ 4 := by
      rw [hequal, EStateM.Result.ok.injEq, Value.bool.injEq, and_iff_left rfl]
    tfae_have 5 ↔ 1 := hd.answerSame_iff hds (k := ("downcase", .downcase, .downcase, _))
      (.head _) hoption
    tfae_have 6 ↔ 1 := hd.answerSame_iff hds (k := ("upcase", .upcase, .upcase, _))
      (.tail _ (.head _)) hoption
    tfae_finish

end Orders

/-- With the built-in comparisons and casings of symbols and strings, in every machine that comes of
a configuration, names are ordered by their code points, and without regard to case by those with
the ASCII capitals lowered. -/
theorem orders_of_run (hm₀ : ofConfig c = .ok m₀) (hh : host.Keeps Extends) (hr : Run host m₀ m ds)
    (hds : SparesNamings ds) : OrdersNames host m ∧ OrdersCaseless host m := by
  have hd : m.Defines (Builtin.definitions ++ ds) := (defines_ofConfig hm₀).run hh hr
  exact ⟨hd.ordersNames hds, hd.ordersCaseless hds⟩

/-- Two symbols that are equal but for their case, in a machine with a definition of its own. -/
theorem orders_of_run_tag :
    ∃ m₀, ofConfig .standard = .ok m₀ ∧ Host.idle.Keeps Extends ∧
      let d : Definition := (("Integer", "tag"), .native "tag")
      let m₁ := (intern "Tag").after (m₀.addDefinition d)
      let m := (intern "tAG").after m₁
      let a := ((m₀.addDefinition d).symbols.intern "Tag").1
      let b := (m₁.symbols.intern "tAG").1
      SparesNamings [d] ∧
        reply .idle 0 (.symbol a) "<=>" ⟨[.symbol b], false⟩ m =
          .ok (integer (-1)) m.countHit.countHit ∧
        reply .idle 0 (.symbol a) "casecmp" ⟨[.symbol b], false⟩ m =
          .ok (integer 0) m.countHit.countHit ∧
        ∀ option : Symbol, option.name = "ascii" →
          AnswerSame .idle 1 "upcase" ⟨[.symbol option], false⟩ a b m := by
  obtain ⟨m₀, hm₀⟩ : ∃ m₀, ofConfig .standard = .ok m₀ := ⟨_, rfl⟩
  refine ⟨m₀, hm₀, Host.keeps_idle, ?_⟩
  intro d m₁ m a b
  have hds : SparesNamings [d] := by
    intro cls hcls name hname method hmem
    obtain ⟨⟨rfl, rfl⟩, -⟩ : (cls = "Integer" ∧ name = "tag") ∧ method = .native "tag" := by
      simpa [d] using hmem
    simp at hcls
  have hrun : Run .idle m₀ (m₀.addDefinition d) [d] := .define d .start
  obtain ⟨hnames, hcaseless⟩ :=
    orders_of_run hm₀ Host.keeps_idle (.intern "tAG" (.intern "Tag" hrun)) hds
  have hd : (m₀.addDefinition d).Defines _ := (defines_ofConfig hm₀).run Host.keeps_idle hrun
  have ha : a.name = "Tag" := (hd.symbol_of_intern "Tag").1
  have hb : b.name = "tAG" := ((hd.extends (keeps_intern "Tag" _)).symbol_of_intern "tAG").1
  have hlt : TextOrder.compare "Tag" "tAG" = .lt := by decide
  have heq : a.compareCaseless b = .eq := by
    rw [Symbol.compareCaseless, ha, hb]
    decide
  refine ⟨hds, ?_, ?_, fun option hoption => ?_⟩
  · rw [hnames.symbols, ha, hb, hlt]
    rfl
  · rw [hcaseless.symbols, heq]
    rfl
  · exact ((hcaseless.equivalent option hoption 0 a b false).out 0 5).mp heq

end Machine

end LateBinding
