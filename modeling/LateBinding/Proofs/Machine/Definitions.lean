import LateBinding.Proofs.Entries
import LateBinding.Proofs.Machine.Frame
import LateBinding.Proofs.Symbol.Canonical

/-! # The method table by text

The method table has pairs of symbols for keys. As long as these belong to the symbol table of the
machine, the table reads like one with pairs of texts for keys, in which each definition has
replaced an earlier one of its class and its name. Running a machine changes neither.
-/

namespace LateBinding

variable {m m' n : Machine} {host : Host} {cls name : String}

abbrev Definition := (String × String) × Method

def lastDefined (defs : List Definition) (cls name : String) : Option Method :=
  (defs.reverse.find? (·.1 == (cls, name))).map Prod.snd

theorem mem_of_lastDefined {defs : List Definition} {method : Method}
    (h : lastDefined defs cls name = some method) : ((cls, name), method) ∈ defs := by
  obtain ⟨d, hd, rfl⟩ := Option.map_eq_some_iff.mp h
  have hkey : d.1 = (cls, name) := by simpa using List.find?_some hd
  rw [← hkey]
  exact List.mem_reverse.mp (List.mem_of_find?_eq_some hd)

/-- Later definitions under other keys play no part. -/
theorem lastDefined_append {defs ds : List Definition} (h : ∀ method, ((cls, name), method) ∉ ds) :
    lastDefined (defs ++ ds) cls name = lastDefined defs cls name := by
  have hnone : ds.reverse.find? (·.1 == (cls, name)) = none := by
    rw [List.find?_eq_none]
    rintro ⟨key, method⟩ hmem hkey
    obtain rfl : key = (cls, name) := by simpa using hkey
    exact h method (List.mem_reverse.mp hmem)
  simp [lastDefined, List.find?_append, hnone]

/-- A method for all objects is found for the classes that have none of their own under its name. -/
theorem found_shared {defs : List Definition} {method : Method} (own : List String)
    (hdefined : ∀ d ∈ defs, d.1.2 = name → d.1.1 ∈ own ∨ d = ((Builtin.objectClass, name), method))
    (hobject : lastDefined defs Builtin.objectClass name = some method) (hcls : cls ∉ own) :
    (lastDefined defs cls name).or (lastDefined defs Builtin.objectClass name) = some method := by
  cases hc : lastDefined defs cls name with
  | none => exact hobject
  | some found =>
    rcases hdefined _ (mem_of_lastDefined hc) rfl with hown | heq
    · exact absurd hown hcls
    · cases heq
      rfl

def Builtin.definitions : List Definition :=
  Builtin.all.map fun (cls, name, b) => ((cls, name), .builtin b)

namespace Machine

def addDefinition (m : Machine) (d : Definition) : Machine := m.define d.1.1 d.1.2 d.2

theorem build_eq (c : Config) : build c = Builtin.definitions.foldl addDefinition (bare c) := by
  unfold build Builtin.definitions
  rw [List.foldl_map]
  rfl

theorem foldl_addDefinition (ds : List Definition) (m : Machine) :
    (ds.foldl addDefinition m).heap = m.heap ∧
      (ds.foldl addDefinition m).lastMatch = m.lastMatch := by
  induction ds generalizing m with
  | nil => exact ⟨rfl, rfl⟩
  | cons d ds ih =>
    rw [List.foldl_cons]
    exact ih (m.addDefinition d)

/-- What becomes of a machine that runs: it has the same methods, and its symbols stay. -/
structure Extends (m m' : Machine) : Prop where
  methods : m'.methods = m.methods
  objectClass : m'.objectClass = m.objectClass
  symbols : m.symbols.Extends m'.symbols

instance : Frame Extends where
  refl _ := ⟨rfl, rfl, .refl _⟩
  trans h h' :=
    ⟨h'.methods.trans h.methods, h'.objectClass.trans h.objectClass, h.symbols.trans h'.symbols⟩
  symbols m name := ⟨rfl, rfl, m.symbols.extends_intern name⟩
  heap _ _ := ⟨rfl, rfl, .refl _⟩
  register _ _ := ⟨rfl, rfl, .refl _⟩
  users _ _ := ⟨rfl, rfl, .refl _⟩
  groups _ _ := ⟨rfl, rfl, .refl _⟩

/-- An entry with the texts of its key in place of the symbols. -/
def readEntry (e : (Symbol × Symbol) × Method) : Definition := ((e.1.1.name, e.1.2.name), e.2)

/-- The methods of a machine are these definitions, under symbols of its own. -/
structure Defines (m : Machine) (defs : List Definition) : Prop where
  canonical : m.symbols.Canonical
  object : m.symbols.lookup? Builtin.objectClass = some m.objectClass
  keys : ∀ k ∈ m.methods.entries.map Prod.fst, k.1 ∈ m.symbols.symbols ∧ k.2 ∈ m.symbols.symbols
  texts : m.methods.entries.map readEntry = Entries.tabulate defs

variable {defs : List Definition}

theorem Defines.extends (hd : m.Defines defs) (h : m.Extends m') : m'.Defines defs where
  canonical := h.symbols.canonical hd.canonical
  object := by
    rw [h.objectClass]
    exact h.symbols.lookup? hd.canonical hd.object
  keys := by
    rw [h.methods]
    exact fun k hk => (hd.keys k hk).imp h.symbols.mem_symbols h.symbols.mem_symbols
  texts := by rw [h.methods, hd.texts]

theorem isAt_eq {t : SymbolTable} (ht : t.Canonical) {c s : Symbol} (hc : c ∈ t.symbols)
    (hs : s ∈ t.symbols) {k : Symbol × Symbol} (hk : k.1 ∈ t.symbols ∧ k.2 ∈ t.symbols) :
    ((k.1.name, k.2.name) == (c.name, s.name)) = MethodTable.isAt c s k := by
  rw [Bool.eq_iff_iff, MethodTable.isAt, Bool.and_eq_true, ht.same_iff hk.1 hc, ht.same_iff hk.2 hs,
    beq_iff_eq, Prod.mk.injEq]

theorem Defines.get? (hd : m.Defines defs) {c s : Symbol} (hc : c ∈ m.symbols.symbols)
    (hs : s ∈ m.symbols.symbols) : m.methods.get? c s = lastDefined defs c.name s.name := by
  unfold MethodTable.get? lastDefined
  rw [← Entries.get?_tabulate, ← hd.texts]
  symm
  refine Entries.get?_map (g := fun k : Symbol × Symbol => (k.1.name, k.2.name)) fun e he => ?_
  exact isAt_eq hd.canonical hc hs (hd.keys _ (List.mem_map_of_mem he))

theorem Defines.size (hd : m.Defines defs) :
    m.methods.size = (defs.map Prod.fst).toFinset.card := by
  rw [← Entries.length_tabulate, ← hd.texts, List.length_map, MethodTable.size]

theorem Defines.define (hd : m.Defines defs) (d : Definition) :
    (m.addDefinition d).Defines (defs ++ [d]) := by
  obtain ⟨⟨cls, name⟩, method⟩ := d
  set c := m.symbols.intern cls with hc
  set s := c.2.intern name with hs
  have hext : m.symbols.Extends s.2 :=
    (m.symbols.extends_intern cls).trans (c.2.extends_intern name)
  have hcan : s.2.Canonical := hext.canonical hd.canonical
  have hcls : s.2.lookup? cls = some c.1 :=
    (c.2.extends_intern name).lookup? ((m.symbols.extends_intern cls).canonical hd.canonical)
      (m.symbols.lookup?_intern cls)
  have hname : s.2.lookup? name = some s.1 := c.2.lookup?_intern name
  have hcname : c.1.name = cls := hcan.name_of_lookup? hcls
  have hsname : s.1.name = name := hcan.name_of_lookup? hname
  have hcmem : c.1 ∈ s.2.symbols := hcan.mem_symbols_iff.mpr (hcname.symm ▸ hcls)
  have hsmem : s.1 ∈ s.2.symbols := hcan.mem_symbols_iff.mpr (hsname.symm ▸ hname)
  have hkeys : ∀ k ∈ m.methods.entries.map Prod.fst, k.1 ∈ s.2.symbols ∧ k.2 ∈ s.2.symbols :=
    fun k hk => (hd.keys k hk).imp hext.mem_symbols hext.mem_symbols
  refine ⟨hcan, hext.lookup? hd.canonical hd.object, fun k hk => ?_, ?_⟩
  · rcases Entries.mem_keys_put hk with hk | rfl
    · exact hkeys k hk
    · exact ⟨hcmem, hsmem⟩
  · have hentries : (m.addDefinition ((cls, name), method)).methods.entries =
        Entries.put (MethodTable.isAt c.1 s.1) (c.1, s.1) method m.methods.entries := rfl
    calc (m.addDefinition ((cls, name), method)).methods.entries.map readEntry
        = Entries.put (· == (c.1.name, s.1.name)) (c.1.name, s.1.name) method
            (m.methods.entries.map readEntry) := by
          rw [hentries]
          refine Entries.map_put (g := fun k : Symbol × Symbol => (k.1.name, k.2.name))
            fun e he => ?_
          exact isAt_eq hcan hcmem hsmem (hkeys _ (List.mem_map_of_mem he))
      _ = Entries.tabulate (defs ++ [((cls, name), method)]) := by
          rw [hcname, hsname, hd.texts, Entries.tabulate_concat]

theorem Defines.foldl (hd : m.Defines defs) (ds : List Definition) :
    (ds.foldl addDefinition m).Defines (defs ++ ds) := by
  induction ds generalizing m defs with
  | nil => simpa using hd
  | cons d ds ih => simpa using ih (hd.define d)

theorem defines_bare (c : Config) : (bare c).Defines [] := by
  have hbase : (if c.preinternKnownSymbols then SymbolTable.known 0 else .empty 0).Canonical := by
    split
    · exact SymbolTable.canonical_known 0
    · exact SymbolTable.canonical_empty 0
  have hcan := (SymbolTable.extends_setTracking _ c.trackInternerStats).canonical hbase
  refine ⟨?_, ?_, fun k hk => ?_, rfl⟩
  · exact (SymbolTable.extends_intern _ Builtin.objectClass).canonical hcan
  · exact SymbolTable.lookup?_intern _ Builtin.objectClass
  · cases hk

theorem heap_build (c : Config) : (build c).heap = .empty ∧ (build c).lastMatch = .nil := by
  rw [build_eq]
  exact foldl_addDefinition Builtin.definitions (bare c)

theorem defines_build (c : Config) : (build c).Defines Builtin.definitions := by
  rw [build_eq]
  exact (defines_bare c).foldl Builtin.definitions

/-- The machine is left open, so that no check of what follows from its methods builds its
tables. -/
theorem exists_defines : ∃ m : Machine, m.Defines Builtin.definitions :=
  ⟨_, defines_build .standard⟩

theorem ofConfig_eq {c : Config} (hm : ofConfig c = .ok m) : build c = m := by
  unfold ofConfig Config.validate at hm
  split at hm
  · cases hm
  · exact Except.ok.inj hm

theorem defines_ofConfig {c : Config} (hm : ofConfig c = .ok m) : m.Defines Builtin.definitions :=
  ofConfig_eq hm ▸ defines_build c

end Machine

end LateBinding
