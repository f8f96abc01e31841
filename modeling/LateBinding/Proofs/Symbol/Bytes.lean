import LateBinding.Proofs.Symbol.Client
import LateBinding.Proofs.Text.Utf8

/-! # Interning bytes

Bytes that encode a text are interned as that text is. All others are refused with the length of
their longest prefix that encodes one, and leave everything as it was.
-/

namespace LateBinding.Registry.Client

open Utf8

variable {n : ℕ} {c : Client n} {t : Fin n} {bytes : List UInt8} {text : String} {s : Symbol}

/-- What becomes of bytes in a table. -/
structure InternsBytes (c : Client n) (t : Fin n) (bytes : List UInt8) : Prop where
  succeeds_iff : (∃ s, (c.registry.internBytes t bytes).1 = .ok s) ↔ IsText bytes
  /-- The encoding of a text gives its symbol, and does to the tables and to their counts what the
  text does. -/
  encoded : ∀ text : String, bytes = encode text.toList →
    c.registry.internBytes t bytes = (.ok (c.registry.intern t text).1,
      (c.registry.intern t text).2) ∧
      c.step (.internBytes t bytes) = c.step (.intern t text)
  /-- The encoding of the name of a symbol gives the symbol back. -/
  known : ∀ s ∈ (c.table t).symbols, bytes = encode s.name.toList →
    (c.registry.internBytes t bytes).1 = .ok s
  refused : ¬ IsText bytes → ∃ k, IsGreatest (validLengths bytes) k ∧
    c.registry.internBytes t bytes = (.error (.invalidName k), c.registry) ∧
    c.step (.internBytes t bytes) = c

theorem exists_text?_eq_error (h : ¬ IsText bytes) : ∃ k, text? bytes = .error k := by
  cases hb : text? bytes with
  | ok text => exact absurd ⟨text, text?_eq_ok_iff.mp hb⟩ h
  | error k => exact ⟨k, rfl⟩

theorem Sound.intern_name (hc : c.Sound) (hs : s ∈ (c.table t).symbols) :
    (c.registry.intern t s.name).1 = s :=
  SymbolTable.intern_eq_of_lookup? ((hc.canonical t).mem_symbols_iff.mp hs)

/-- Whatever a program has done before, bytes are interned just when they encode a text, and then as
that text. -/
theorem internsBytes_run (starts : List Start) (ops : List (Operation starts.length))
    (t : Fin starts.length) (bytes : List UInt8) :
    InternsBytes ((start starts).run ops) t bytes := by
  obtain ⟨hsound, -⟩ := advances_run (start starts) ops (sound_start starts)
  refine ⟨⟨fun ⟨s, hs⟩ => ?_, fun ⟨text, htext⟩ => ?_⟩, fun text htext => ?_, fun s hs htext => ?_,
    fun hnot => ?_⟩
  · by_contra hnot
    obtain ⟨k, hk⟩ := exists_text?_eq_error hnot
    rw [internBytes_eq_of_error hk] at hs
    cases hs
  · exact ⟨_, by rw [internBytes_eq (text?_eq_ok_iff.mpr htext)]⟩
  · have hok := text?_eq_ok_iff.mpr htext
    exact ⟨internBytes_eq hok, step_internBytes hok⟩
  · rw [internBytes_eq (text?_eq_ok_iff.mpr htext), hsound.intern_name hs]
  · obtain ⟨k, hk⟩ := exists_text?_eq_error hnot
    exact ⟨k, (text?_eq_error_iff.mp hk).2, internBytes_eq_of_error hk,
      step_internBytes_of_error hk⟩

end LateBinding.Registry.Client
