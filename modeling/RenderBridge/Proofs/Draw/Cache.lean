import Mathlib.Tactic
import RenderBridge.Draw.Resolve
/-!
How the state of a draw is resolved from the cache of compiled objects.

* `Numbered`, `Interned`: compiled objects with numbers of their own, under their own keys.
* `Cache.pipeline_cases`, `depthStencil_cases`: an object is found, or compiled and kept, or
  refused.
* `Cache.Extends`: what is in a cache stays in it.
* `DrawConfig.resolve_cases`, `resolve_ok`: both objects of a draw that is resolved are kept.
-/

set_option autoImplicit false

namespace RenderBridge

/-! ### Tables of compiled objects -/

section

variable {κ ν : Type} [DecidableEq κ] {key : ν → κ} {id : ν → ℕ} {objects : Table κ ν}
  {attempts : ℕ} {compiled : List κ}

/-- Compiled objects with numbers that no other has, at most that of the last attempt. -/
structure Numbered (id : ν → ℕ) (objects : Table κ ν) (attempts : ℕ) : Prop where
  id_le : ∀ k v, objects.get? k = some v → id v ≤ attempts
  id_inj : ∀ k k' v v', objects.get? k = some v → objects.get? k' = some v' → id v = id v' →
    k = k'

namespace Numbered

lemma empty : Numbered (κ := κ) id {} attempts where
  id_le k v h := by cases h
  id_inj k k' v v' h := by cases h

/-- Attempts that fail leave numbers out. -/
lemma mono (h : Numbered id objects attempts) {attempts' : ℕ} (hle : attempts ≤ attempts') :
    Numbered id objects attempts' := ⟨fun k v hv => (h.id_le k v hv).trans hle, h.id_inj⟩

/-- An attempt that succeeds brings a new number. -/
lemma insert (h : Numbered id objects attempts) (k : κ) {v : ν} (hid : id v = attempts + 1) :
    Numbered id (objects.insert k v) (attempts + 1) := by
  have hcases : ∀ j w, (objects.insert k v).get? j = some w →
      (j = k ∧ w = v) ∨ objects.get? j = some w := by
    intro j w hw
    rw [Table.get?_insert] at hw
    split at hw
    · rename_i heq
      exact .inl ⟨heq, (Option.some.inj hw).symm⟩
    · exact .inr hw
  refine ⟨fun j w hw => ?_, fun j j' w w' hw hw' heq => ?_⟩
  · rcases hcases j w hw with ⟨rfl, rfl⟩ | hold
    · exact hid.le
    · exact (h.id_le j w hold).trans (Nat.le_succ _)
  · rcases hcases j w hw with ⟨rfl, rfl⟩ | hold
    · rcases hcases j' w' hw' with ⟨rfl, rfl⟩ | hold'
      · rfl
      · have hle := h.id_le j' w' hold'
        omega
    · rcases hcases j' w' hw' with ⟨rfl, rfl⟩ | hold'
      · have hle := h.id_le j w hold
        omega
      · exact h.id_inj j j' w w' hold hold' heq

end Numbered

/-- Compiled objects under their own keys, with numbers of their own as long as the attempts can be
counted in 32 bits. The keys compiled so far are different, and are the keys with objects. -/
structure Interned (key : ν → κ) (id : ν → ℕ) (objects : Table κ ν) (attempts : ℕ)
    (compiled : List κ) : Prop where
  numbered : attempts < UInt32.size → Numbered id objects attempts
  key_eq : ∀ k v, objects.get? k = some v → key v = k
  nodup : compiled.Nodup
  mem_iff : ∀ k, k ∈ compiled ↔ (objects.get? k).isSome

namespace Interned

lemma empty : Interned key id {} attempts [] where
  numbered _ := .empty
  key_eq k v h := by cases h
  nodup := List.nodup_nil
  mem_iff k := ⟨fun hk => (List.not_mem_nil hk).elim, fun hk => by cases hk⟩

lemma mono (h : Interned key id objects attempts compiled) {attempts' : ℕ}
    (hle : attempts ≤ attempts') : Interned key id objects attempts' compiled :=
  ⟨fun hcounted => (h.numbered (hle.trans_lt hcounted)).mono hle, h.key_eq, h.nodup, h.mem_iff⟩

lemma insert (h : Interned key id objects attempts compiled) {v : ν}
    (hfree : objects.get? (key v) = none)
    (hid : attempts + 1 < UInt32.size → id v = attempts + 1) :
    Interned key id (objects.insert (key v) v) (attempts + 1) (compiled ++ [key v]) := by
  refine ⟨fun hcounted => ?_, fun k w hw => ?_, ?_, fun k => ?_⟩
  · exact (h.numbered (Nat.lt_of_succ_lt hcounted)).insert (key v) (hid hcounted)
  · rw [Table.get?_insert] at hw
    split at hw
    · rename_i heq
      cases hw
      exact heq.symm
    · exact h.key_eq k w hw
  · refine List.nodup_append.mpr ⟨h.nodup, List.nodup_singleton _, fun k hk k' hk' => ?_⟩
    rintro rfl
    have hsome := (h.mem_iff k).mp hk
    rw [List.mem_singleton.mp hk', hfree] at hsome
    cases hsome
  · rw [Table.get?_insert, List.mem_append, List.mem_singleton]
    split
    · rename_i heq
      exact ⟨fun _ => rfl, fun _ => .inr heq⟩
    · rename_i hne
      rw [h.mem_iff]
      exact ⟨fun hk => hk.resolve_right hne, .inl⟩

/-- Objects that are kept have the same number only with the same key. -/
lemma id_eq_iff (h : Interned key id objects attempts compiled)
    (hcounted : attempts < UInt32.size) {v w : ν}
    (hv : objects.get? (key v) = some v) (hw : objects.get? (key w) = some w) :
    id v = id w ↔ key v = key w := by
  constructor
  · exact (h.numbered hcounted).id_inj _ _ v w hv hw
  · intro heq
    rw [heq, hw] at hv
    rw [Option.some.inj hv]

end Interned

end

variable {δ P D : Type} [Device δ P D]

/-! ### Looking up -/

namespace Cache

variable (cache : Cache P D)

/-- A pipeline is found, or compiled and kept, or refused and not kept. -/
lemma pipeline_cases (key : PipelineKey) (layout : Option VertexLayout) (d : δ) :
    (∃ p cache', cache.pipelines.get? key = some p ∧
        cache.pipeline key layout d = (.ok p, cache', d) ∧
        cache'.pipelines = cache.pipelines ∧ cache'.depthStencils = cache.depthStencils) ∨
      (∃ p cache' d', cache.pipelines.get? key = none ∧
        Device.compilePipeline key layout d = (.ok p, d') ∧
        cache.pipeline key layout d = (.ok p, cache', d') ∧
        cache'.pipelines = cache.pipelines.insert key p ∧
        cache'.depthStencils = cache.depthStencils) ∨
      (∃ reason fault cache' d', cache.pipelines.get? key = none ∧
        Device.compilePipeline key layout d = (.error reason, d') ∧
        cache.pipeline key layout d = (.error fault, cache', d') ∧
        cache'.pipelines = cache.pipelines ∧ cache'.depthStencils = cache.depthStencils) := by
  rw [pipeline]
  cases hget : cache.pipelines.get? key with
  | some p => exact .inl ⟨p, _, rfl, rfl, rfl, rfl⟩
  | none =>
    dsimp only
    rcases hcall : Device.compilePipeline key layout d with ⟨answer, d'⟩
    cases answer with
    | ok p => exact .inr (.inl ⟨p, _, d', rfl, rfl, rfl, rfl, rfl⟩)
    | error reason => exact .inr (.inr ⟨reason, _, _, d', rfl, rfl, rfl, rfl, rfl⟩)

/-- A depth-stencil object is found, or compiled and kept, or refused and not kept. -/
lemma depthStencil_cases (key : DepthStencilKey) (d : δ) :
    (∃ p cache', cache.depthStencils.get? key = some p ∧
        cache.depthStencil key d = (.ok p, cache', d) ∧
        cache'.pipelines = cache.pipelines ∧ cache'.depthStencils = cache.depthStencils) ∨
      (∃ p cache' d', cache.depthStencils.get? key = none ∧
        Device.compileDepthStencil key d = (.ok p, d') ∧
        cache.depthStencil key d = (.ok p, cache', d') ∧
        cache'.pipelines = cache.pipelines ∧
        cache'.depthStencils = cache.depthStencils.insert key p) ∨
      (∃ reason fault cache' d', cache.depthStencils.get? key = none ∧
        Device.compileDepthStencil key d = (.error reason, d') ∧
        cache.depthStencil key d = (.error fault, cache', d') ∧
        cache'.pipelines = cache.pipelines ∧ cache'.depthStencils = cache.depthStencils) := by
  rw [depthStencil]
  cases hget : cache.depthStencils.get? key with
  | some p => exact .inl ⟨p, _, rfl, rfl, rfl, rfl⟩
  | none =>
    dsimp only
    rcases hcall : Device.compileDepthStencil key d with ⟨answer, d'⟩
    cases answer with
    | ok p => exact .inr (.inl ⟨p, _, d', rfl, rfl, rfl, rfl, rfl⟩)
    | error reason => exact .inr (.inr ⟨reason, _, _, d', rfl, rfl, rfl, rfl, rfl⟩)

end Cache

/-- The state of a draw is refused, or one of its objects is, or both objects are had. -/
lemma DrawConfig.resolve_cases (s : Snapshot) (target : DrawTarget) (layout : Option VertexLayout)
    (cache : Cache P D) (d : δ) :
    (∃ fault, s.check = .error fault ∧ resolve s target layout cache d = (.error fault, cache, d)) ∨
      (∃ fault cache' d', cache.pipeline (.of s target) layout d = (.error fault, cache', d') ∧
        resolve s target layout cache d = (.error fault, cache', d')) ∨
      (∃ p fault cache₁ d₁ cache' d',
        cache.pipeline (.of s target) layout d = (.ok p, cache₁, d₁) ∧
        cache₁.depthStencil (.of s) d₁ = (.error fault, cache', d') ∧
        resolve s target layout cache d = (.error fault, cache', d')) ∨
      (∃ p q cache₁ d₁ cache' d',
        cache.pipeline (.of s target) layout d = (.ok p, cache₁, d₁) ∧
        cache₁.depthStencil (.of s) d₁ = (.ok q, cache', d') ∧
        resolve s target layout cache d = (.ok (.of s target p q), cache', d')) := by
  rw [resolve]
  cases hcheck : s.check with
  | error fault => exact .inl ⟨fault, rfl, rfl⟩
  | ok _ =>
    right
    dsimp only
    rcases hp : cache.pipeline (.of s target) layout d with ⟨answer, cache₁, d₁⟩
    cases answer with
    | error fault => exact .inl ⟨fault, cache₁, d₁, rfl, rfl⟩
    | ok p =>
      right
      dsimp only
      rcases hq : cache₁.depthStencil (.of s) d₁ with ⟨answer, cache', d'⟩
      cases answer with
      | error fault => exact .inl ⟨p, fault, cache₁, d₁, cache', d', rfl, hq, rfl⟩
      | ok q => exact .inr ⟨p, q, cache₁, d₁, cache', d', rfl, hq, rfl⟩

/-! ### What stays -/

/-- A new entry under a key that was free leaves the others. -/
lemma Table.get?_insert_of_free {κ ν : Type} [DecidableEq κ] {t : Table κ ν} {k j : κ} {v w : ν}
    (hfree : t.get? k = none) (h : t.get? j = some w) : (t.insert k v).get? j = some w := by
  rw [get?_insert, if_neg]
  · exact h
  · rintro rfl
    cases hfree.symm.trans h

namespace Cache

variable {cache cache' cache'' : Cache P D} {d d' : δ}

omit [Device δ P D] in
/-- A later cache that still has what was there. -/
structure Extends (cache cache' : Cache P D) : Prop where
  pipelines : ∀ key p, cache.pipelines.get? key = some p → cache'.pipelines.get? key = some p
  depthStencils : ∀ key q, cache.depthStencils.get? key = some q →
    cache'.depthStencils.get? key = some q

namespace Extends

lemma refl (cache : Cache P D) : Extends cache cache := ⟨fun _ _ h => h, fun _ _ h => h⟩

lemma trans (h : Extends cache cache') (h' : Extends cache' cache'') : Extends cache cache'' :=
  ⟨fun key p hp => h'.pipelines key p (h.pipelines key p hp),
    fun key q hq => h'.depthStencils key q (h.depthStencils key q hq)⟩

end Extends

namespace Extends

lemma of_eq (hpipelines : cache'.pipelines = cache.pipelines)
    (hdepthStencils : cache'.depthStencils = cache.depthStencils) : Extends cache cache' := by
  constructor
  · rw [hpipelines]
    exact fun _ _ hp => hp
  · rw [hdepthStencils]
    exact fun _ _ hq => hq

lemma of_insert_pipeline {key : PipelineKey} {p : P} (hfree : cache.pipelines.get? key = none)
    (hpipelines : cache'.pipelines = cache.pipelines.insert key p)
    (hdepthStencils : cache'.depthStencils = cache.depthStencils) : Extends cache cache' := by
  constructor
  · rw [hpipelines]
    exact fun _ _ hp => Table.get?_insert_of_free hfree hp
  · rw [hdepthStencils]
    exact fun _ _ hq => hq

lemma of_insert_depthStencil {key : DepthStencilKey} {q : D}
    (hfree : cache.depthStencils.get? key = none)
    (hpipelines : cache'.pipelines = cache.pipelines)
    (hdepthStencils : cache'.depthStencils = cache.depthStencils.insert key q) :
    Extends cache cache' := by
  constructor
  · rw [hpipelines]
    exact fun _ _ hp => hp
  · rw [hdepthStencils]
    exact fun _ _ hq => Table.get?_insert_of_free hfree hq

end Extends

lemma pipeline_extends {key : PipelineKey} {layout : Option VertexLayout}
    {answer : Except Fault P} (h : cache.pipeline key layout d = (answer, cache', d')) :
    Extends cache cache' ∧ ∀ p, answer = .ok p → cache'.pipelines.get? key = some p := by
  rcases cache.pipeline_cases key layout d with
    ⟨p, cache₁, hkept, hcall, hpipes, hdepths⟩ | ⟨p, cache₁, d₁, hfree, -, hcall, hpipes, hdepths⟩ |
      ⟨reason, fault, cache₁, d₁, -, -, hcall, hpipes, hdepths⟩
  · cases hcall.symm.trans h
    refine ⟨.of_eq hpipes hdepths, ?_⟩
    rintro p' ⟨⟩
    rw [hpipes, hkept]
  · cases hcall.symm.trans h
    refine ⟨.of_insert_pipeline hfree hpipes hdepths, ?_⟩
    rintro p' ⟨⟩
    rw [hpipes, Table.get?_insert, if_pos rfl]
  · cases hcall.symm.trans h
    refine ⟨.of_eq hpipes hdepths, ?_⟩
    rintro p' ⟨⟩

lemma depthStencil_extends {key : DepthStencilKey} {answer : Except Fault D}
    (h : cache.depthStencil key d = (answer, cache', d')) :
    Extends cache cache' ∧ ∀ q, answer = .ok q → cache'.depthStencils.get? key = some q := by
  rcases cache.depthStencil_cases key d with
    ⟨q, cache₁, hkept, hcall, hpipes, hdepths⟩ | ⟨q, cache₁, d₁, hfree, -, hcall, hpipes, hdepths⟩ |
      ⟨reason, fault, cache₁, d₁, -, -, hcall, hpipes, hdepths⟩
  · cases hcall.symm.trans h
    refine ⟨.of_eq hpipes hdepths, ?_⟩
    rintro q' ⟨⟩
    rw [hdepths, hkept]
  · cases hcall.symm.trans h
    refine ⟨.of_insert_depthStencil hfree hpipes hdepths, ?_⟩
    rintro q' ⟨⟩
    rw [hdepths, Table.get?_insert, if_pos rfl]
  · cases hcall.symm.trans h
    refine ⟨.of_eq hpipes hdepths, ?_⟩
    rintro q' ⟨⟩

end Cache

namespace DrawConfig

variable {s : Snapshot} {target : DrawTarget} {layout : Option VertexLayout}
  {cache cache' : Cache P D} {d d' : δ}

lemma resolve_extends {answer : Except Fault (DrawConfig P D)}
    (h : resolve s target layout cache d = (answer, cache', d')) : cache.Extends cache' := by
  rcases resolve_cases s target layout cache d with
    ⟨fault, -, hcall⟩ | ⟨fault, cache₁, d₁, hp, hcall⟩ |
      ⟨p, fault, cache₁, d₁, cache₂, d₂, hp, hq, hcall⟩ |
        ⟨p, q, cache₁, d₁, cache₂, d₂, hp, hq, hcall⟩
  · cases hcall.symm.trans h
    exact .refl cache
  · cases hcall.symm.trans h
    exact (Cache.pipeline_extends hp).1
  · cases hcall.symm.trans h
    exact (Cache.pipeline_extends hp).1.trans (Cache.depthStencil_extends hq).1
  · cases hcall.symm.trans h
    exact (Cache.pipeline_extends hp).1.trans (Cache.depthStencil_extends hq).1

/-- Where the state of a draw is resolved, both objects are kept under their keys. -/
lemma resolve_ok {config : DrawConfig P D}
    (h : resolve s target layout cache d = (.ok config, cache', d')) :
    ∃ p q, config = .of s target p q ∧ cache'.pipelines.get? (.of s target) = some p ∧
      cache'.depthStencils.get? (.of s) = some q := by
  rcases resolve_cases s target layout cache d with
    ⟨fault, -, hcall⟩ | ⟨fault, cache₁, d₁, -, hcall⟩ |
      ⟨p, fault, cache₁, d₁, cache₂, d₂, -, -, hcall⟩ |
        ⟨p, q, cache₁, d₁, cache₂, d₂, hp, hq, hcall⟩
  · cases hcall.symm.trans h
  · cases hcall.symm.trans h
  · cases hcall.symm.trans h
  · cases hcall.symm.trans h
    obtain ⟨-, hpipeline⟩ := Cache.pipeline_extends hp
    obtain ⟨hextends, hdepthStencil⟩ := Cache.depthStencil_extends hq
    exact ⟨p, q, rfl, hextends.pipelines _ p (hpipeline p rfl), hdepthStencil q rfl⟩

end DrawConfig

end RenderBridge
