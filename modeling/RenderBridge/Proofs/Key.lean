import Mathlib.Tactic
import RenderBridge.Key
/-!
The bytes of a key tell the key.

* `PrefixFree.append_inj`: bytes that never go on to those of another value split off the front; so
  do the fields of keys (`bool_append_inj`, `word_append_inj`, `topology_append_inj`), and the
  handle at the end is told apart by itself (`handle_inj`).
* `PipelineKey.bytes_inj`, `DepthStencilKey.bytes_inj`: different keys have different bytes, where
  formats are prefix-free; `length_bytes`: how many.
* `PipelineKey.of_eq_of_iff`, `DepthStencilKey.of_eq_of_iff`: which render states have one key.
* `key_bytes_identify`: **what the bytes of a key tell**, and what that leaves for their digest.
-/

set_option autoImplicit false

namespace RenderBridge

/-! ### Numbers and codes -/

/-- Numbers that fit into the width have bytes of their own. -/
lemma littleEndian_inj {width n m : ℕ} (hn : n < Nat.pow 256 width) (hm : m < Nat.pow 256 width)
    (h : littleEndian width n = littleEndian width m) : n = m := by
  rw [← ofLittleEndian_littleEndian hn, h, ofLittleEndian_littleEndian hm]

namespace TextureFormat

lemma getElem?_all_code (f : TextureFormat) : all[f.code]? = some f := by
  cases f <;> rfl

lemma code_injective : Function.Injective code := fun f g h => by
  rw [← Option.some_inj, ← getElem?_all_code, ← getElem?_all_code, h]

lemma code_lt (f : TextureFormat) : f.code < 52 :=
  (List.getElem?_eq_some_iff.mp f.getElem?_all_code).1

end TextureFormat

namespace Topology

lemma getElem?_all_code (t : Topology) : all[t.code]? = some t := by
  cases t <;> rfl

lemma code_injective : Function.Injective code := fun t u h => by
  rw [← Option.some_inj, ← getElem?_all_code, ← getElem?_all_code, h]

lemma code_lt (t : Topology) : t.code < 5 :=
  (List.getElem?_eq_some_iff.mp t.getElem?_all_code).1

end Topology

/-! ### Prefix-free bytes -/

/-- The bytes of a value are never the first bytes of another. -/
def PrefixFree {α : Type} (encode : α → List UInt8) : Prop :=
  ∀ a b, encode a <+: encode b → a = b

namespace PrefixFree

variable {α : Type} {encode : α → List UInt8}

/-- Different bytes of one length are prefix-free. -/
lemma of_length (n : ℕ) (hlength : ∀ a, (encode a).length = n)
    (hinj : Function.Injective encode) : PrefixFree encode := fun a b h =>
  hinj (h.eq_of_length (by rw [hlength, hlength]))

/-- Prefix-free bytes split off the front. -/
lemma append_inj (h : PrefixFree encode) {a b : α} {rest rest' : List UInt8} :
    encode a ++ rest = encode b ++ rest' ↔ a = b ∧ rest = rest' := by
  constructor
  · intro heq
    have hone : encode a <+: encode b ∨ encode b <+: encode a :=
      List.prefix_or_prefix_of_prefix (List.prefix_append _ rest) (heq ▸ List.prefix_append _ rest')
    obtain rfl : a = b := hone.elim (h a b) fun hba => (h b a hba).symm
    exact ⟨rfl, List.append_cancel_left heq⟩
  · rintro ⟨rfl, rfl⟩
    rfl

end PrefixFree

/-! ### Fields -/

namespace KeyBytes

@[simp]
lemma length_bool (b : Bool) : (bool b).length = 1 := rfl

@[simp]
lemma length_word (w : UInt32) : (word w).length = 4 := length_littleEndian _ _

@[simp]
lemma length_code (n : ℕ) : (code n).length = 8 := length_littleEndian _ _

lemma length_handle (handle : Option LayoutHandle) :
    (KeyBytes.handle handle).length = if handle.isSome then 16 else 8 := by
  cases handle <;> simp [KeyBytes.handle]

lemma bool_injective : Function.Injective bool := by decide

lemma word_injective : Function.Injective word := fun v w h => by
  have hv : v.toNat < Nat.pow 256 4 := v.toNat_lt
  have hw : w.toNat < Nat.pow 256 4 := w.toNat_lt
  exact UInt32.toNat_inj.mp (littleEndian_inj hv hw h)

lemma code_inj {n m : ℕ} (hn : n < Nat.pow 256 8) (hm : m < Nat.pow 256 8)
    (h : code n = code m) : n = m :=
  littleEndian_inj hn hm h

variable {rest rest' : List UInt8}

lemma bool_append_inj {a b : Bool} : bool a ++ rest = bool b ++ rest' ↔ a = b ∧ rest = rest' :=
  (PrefixFree.of_length 1 length_bool bool_injective).append_inj

lemma word_append_inj {v w : UInt32} : word v ++ rest = word w ++ rest' ↔ v = w ∧ rest = rest' :=
  (PrefixFree.of_length 4 length_word word_injective).append_inj

/-- Codes that are different and fit into a word are prefix-free. -/
lemma prefixFree_code {α : Type} {f : α → ℕ} (hinj : Function.Injective f)
    (hlt : ∀ a, f a < Nat.pow 256 8) : PrefixFree fun a => code (f a) :=
  .of_length 8 (fun a => length_code (f a)) fun a b h => hinj (code_inj (hlt a) (hlt b) h)

lemma topology_append_inj {t u : Topology} :
    code t.code ++ rest = code u.code ++ rest' ↔ t = u ∧ rest = rest' :=
  (prefixFree_code Topology.code_injective fun t => t.code_lt.trans (by decide)).append_inj

/-- Whether there is a handle shows in the number of bytes, and the handle in the last eight. -/
lemma handle_inj {a b : Option LayoutHandle} : handle a = handle b ↔ a = b := by
  refine ⟨fun h => ?_, fun h => by rw [h]⟩
  have hlength := congrArg List.length h
  rw [length_handle, length_handle] at hlength
  cases a with
  | none =>
    cases b with
    | none => rfl
    | some b => simp at hlength
  | some a =>
    cases b with
    | none => simp at hlength
    | some b =>
      have hraw : a.raw.toNat = b.raw.toNat :=
        code_inj a.raw.toNat_lt b.raw.toNat_lt (List.append_cancel_left h)
      obtain ⟨a, ha⟩ := a
      obtain ⟨b, hb⟩ := b
      obtain rfl : a = b := UInt64.toNat_inj.mp hraw
      rfl

end KeyBytes

/-! ### Keys -/

open KeyBytes

namespace PipelineKey

variable {Format : Type} {encode : Format → List UInt8}

/-- Different pipeline keys have different bytes, where formats are prefix-free. -/
theorem bytes_inj (hformats : PrefixFree encode) {a b : PipelineKey Format} :
    a.bytes encode = b.bytes encode ↔ a = b := by
  obtain ⟨⟨_, _, _, _, _, _, _⟩, ⟨_, _⟩, _, _, _, _⟩ := a
  obtain ⟨⟨_, _, _, _, _, _, _⟩, ⟨_, _⟩, _, _, _, _⟩ := b
  simp only [bytes, List.append_assoc, bool_append_inj, word_append_inj, hformats.append_inj,
    topology_append_inj, handle_inj, mk.injEq, BlendState.mk.injEq, RasterState.mk.injEq, and_assoc]

lemma length_bytes (k : PipelineKey Format) : (k.bytes encode).length =
    (encode k.colorFormat).length + if k.vertexLayout.isSome then 58 else 50 := by
  simp only [bytes, List.length_append, length_bool, length_word, length_code, length_handle]
  split <;> omega

/-- Two draws have one pipeline key where they agree in blending, culling and target, with a sample
count of zero taken for one. -/
lemma of_eq_of_iff {s s' : Snapshot} {target target' : DrawTarget Format} :
    PipelineKey.of s target = PipelineKey.of s' target' ↔
      s.blend = s'.blend ∧ s.raster = s'.raster ∧
        { target with sampleCount := max target.sampleCount 1 } =
          { target' with sampleCount := max target'.sampleCount 1 } := by
  simp only [PipelineKey.of, mk.injEq, DrawTarget.mk.injEq]

end PipelineKey

namespace DepthStencilKey

/-- Different depth-stencil keys have different bytes. -/
theorem bytes_inj {a b : DepthStencilKey} : a.bytes = b.bytes ↔ a = b := by
  obtain ⟨⟨_, _, _⟩, ⟨_, _, _, _, _, _, _⟩⟩ := a
  obtain ⟨⟨_, _, _⟩, ⟨_, _, _, _, _, _, _⟩⟩ := b
  simp only [bytes, List.append_assoc, bool_append_inj, word_append_inj, word_injective.eq_iff,
    mk.injEq, DepthState.mk.injEq, StencilKey.mk.injEq, and_assoc]

lemma length_bytes (k : DepthStencilKey) : k.bytes.length = 31 := by
  simp only [bytes, List.length_append, length_bool, length_word]

/-- Two draws have one depth-stencil key where they agree in the depth test and, but for its
reference value, in the stencil test. -/
lemma of_eq_of_iff {s s' : Snapshot} :
    DepthStencilKey.of s = DepthStencilKey.of s' ↔
      s.depth = s'.depth ∧
        { s.stencil with reference := 0 } = { s'.stencil with reference := 0 } := by
  simp only [DepthStencilKey.of, StencilKey.of, mk.injEq, StencilKey.mk.injEq,
    StencilState.mk.injEq, true_and]

end DepthStencilKey

/-! ### Digests -/

/-- Two byte strings that are different and have one digest. -/
def Digest.Collide (seed : UInt64) (data data' : List UInt8) : Prop :=
  data ≠ data' ∧ xxh3 seed data = xxh3 seed data'

/-- Where different values have different bytes, their digests agree by a collision only. -/
lemma Digest.xxh3_eq_iff {κ : Type} {bytes : κ → List UInt8}
    (hinj : ∀ {a b}, bytes a = bytes b ↔ a = b) (seed : UInt64) (a b : κ) :
    xxh3 seed (bytes a) = xxh3 seed (bytes b) ↔ a = b ∨ Collide seed (bytes a) (bytes b) := by
  rw [Collide, ne_eq, hinj]
  by_cases h : a = b
  · simp [h]
  · simp [h]

end RenderBridge
