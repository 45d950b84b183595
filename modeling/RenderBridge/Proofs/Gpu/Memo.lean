import RenderBridge.Proofs.Gpu.Encode
import RenderBridge.Proofs.Gpu.Template
import RenderBridge.Proofs.Vertex.Registry
/-!
What a graphics device remembers of pipelines, and how that grows.

* `PipelineLedger`: what the device remembers, beside what was built and called since it was opened.
* `Memo`: every pipeline that is remembered was built and accepted for its own pair of keys, and
  every pipeline that was accepted is remembered.
* `Memo.record`, `reject`, `build`, `skip`, `insert`: **each way in which the ledger grows** keeps
  this.
-/

set_option autoImplicit false

namespace RenderBridge

/-! ### Templates -/

namespace LayoutRegistry

/-- The template of a key, with the layout that is registered under the key's handle. -/
structure Gives (r : LayoutRegistry) (key : PipelineKey) (template : PipelineTemplate) : Prop where
  registered : ∀ handle, key.vertexLayout = some handle → (r.records.get? handle).isSome
  of_eq : PipelineTemplate.of key (r.native key.vertexLayout) = .ok template

/-- New layouts leave templates what they are. -/
lemma Gives.mono {r r' : LayoutRegistry} {key : PipelineKey} {template : PipelineTemplate}
    (h : r.Gives key template) (hextends : r.Extends r') : r'.Gives key template where
  registered handle hhandle := by
    obtain ⟨record, hrecord⟩ := Option.isSome_iff_exists.mp (h.registered handle hhandle)
    rw [hextends handle record hrecord]
    rfl
  of_eq := by
    rw [hextends.native_eq h.registered]
    exact h.of_eq

end LayoutRegistry

/-! ### Ledgers -/

/-- A pipeline that was built for a pair of keys, and whether the machine accepted it. -/
structure PipelineBuild where
  pair : PipelineKey × DepthStencilKey
  number : ℕ
  description : PipelineDescription
  accepted : Bool
deriving DecidableEq

/-- The pairs of keys for which a pipeline was accepted. -/
def acceptedPairs (builds : List PipelineBuild) : List (PipelineKey × DepthStencilKey) :=
  (builds.filter (·.accepted)).map (·.pair)

lemma mem_acceptedPairs {builds : List PipelineBuild} {pair : PipelineKey × DepthStencilKey} :
    pair ∈ acceptedPairs builds ↔ ∃ b ∈ builds, b.accepted ∧ b.pair = pair := by
  simp only [acceptedPairs, List.mem_map, List.mem_filter, and_assoc]

/-- What a graphics device remembers of pipelines, beside what was built and called since it was
opened. -/
structure PipelineLedger where
  templates : ℕ
  variants : Table (ℕ × DepthStencilKey) ℕ
  pipelines : ℕ
  builds : List PipelineBuild
  events : List GpuEvent

/-- The ledger after a pipeline was built. -/
def PipelineLedger.built (l : PipelineLedger) (variants : Table (ℕ × DepthStencilKey) ℕ)
    (b : PipelineBuild) (label : Option String) : PipelineLedger where
  templates := l.templates
  variants := variants
  pipelines := l.pipelines + 1
  builds := l.builds ++ [b]
  events := l.events ++ GpuDevice.buildEvents b.number label b.description

/-- A cache of templates and the ledger of the device agree: templates are those of their keys, and
the pipelines that are remembered are the ones accepted, each for its own pair of keys. -/
structure Memo (cache : Cache GpuPipeline GpuDepthStencil) (layouts : LayoutRegistry)
    (l : PipelineLedger) : Prop where
  numbered : Numbered GpuPipeline.id cache.pipelines l.templates
  template : ∀ key p, cache.pipelines.get? key = some p → layouts.Gives key p.template
  buildable : ∀ b ∈ l.builds, ∃ template, layouts.Gives b.pair.1 template
  depthStencil : ∀ key q, cache.depthStencils.get? key = some q → q = .of key
  kept : ∀ id dkey number, l.variants.get? (id, dkey) = some number →
    ∃ key p, cache.pipelines.get? key = some p ∧ p.id = id ∧
      ⟨(key, dkey), number, p.template.describe (.of dkey), true⟩ ∈ l.builds
  accepted : ∀ b ∈ l.builds, b.accepted → ∃ p, cache.pipelines.get? b.pair.1 = some p ∧
    l.variants.get? (p.id, b.pair.2) = some b.number
  nodup : (acceptedPairs l.builds).Nodup
  numbers : (l.builds.map (·.number)).Nodup
  number_le : ∀ b ∈ l.builds, b.number ≤ l.pipelines
  created : ∀ number label description,
    .createPipeline number label description ∈ l.events →
      ∃ b ∈ l.builds, b.number = number ∧ b.description = description
  listed : ∀ b ∈ l.builds, ∃ label, .createPipeline b.number label b.description ∈ l.events
  set : ∀ number, .setPipeline number ∈ l.events →
    ∃ b ∈ l.builds, b.accepted ∧ b.number = number

namespace Memo

variable {cache cache' : Cache GpuPipeline GpuDepthStencil} {layouts layouts' : LayoutRegistry}
  {l : PipelineLedger}

/-- At the start nothing is remembered. -/
lemma empty (layouts : LayoutRegistry) (templates pipelines : ℕ) :
    Memo {} layouts ⟨templates, {}, pipelines, [], []⟩ where
  numbered := Numbered.empty.mono (Nat.zero_le _)
  template key p h := by cases h
  buildable b hb := by cases hb
  depthStencil key q h := by cases h
  kept id dkey number h := by cases h
  accepted b hb := by cases hb
  nodup := List.nodup_nil
  numbers := List.nodup_nil
  number_le b hb := by cases hb
  created number label description h := by cases h
  listed b hb := by cases hb
  set number h := by cases h

/-- Builds with one number are one. -/
lemma build_unique (h : Memo cache layouts l) {b b' : PipelineBuild} (hb : b ∈ l.builds)
    (hb' : b' ∈ l.builds) (hsame : b.number = b'.number) : b = b' :=
  List.inj_on_of_nodup_map h.numbers hb hb' hsame

/-- The pipeline remembered for a cached template is the one built for its keys. -/
lemma build_of_variant (h : Memo cache layouts l) {key : PipelineKey} {p : GpuPipeline}
    (hp : cache.pipelines.get? key = some p) {dkey : DepthStencilKey} {number : ℕ}
    (hvariant : l.variants.get? (p.id, dkey) = some number) :
    ⟨(key, dkey), number, p.template.describe (.of dkey), true⟩ ∈ l.builds := by
  obtain ⟨key', p', hp', hid, hbuild⟩ := h.kept p.id dkey number hvariant
  obtain rfl := h.numbered.id_inj key' key p' p hp' hp hid
  cases hp'.symm.trans hp
  exact hbuild

/-- A pair of keys was accepted exactly where its pipeline is remembered. -/
lemma mem_acceptedPairs_iff (h : Memo cache layouts l) {key : PipelineKey} {p : GpuPipeline}
    (hp : cache.pipelines.get? key = some p) (dkey : DepthStencilKey) :
    (key, dkey) ∈ acceptedPairs l.builds ↔ (l.variants.get? (p.id, dkey)).isSome := by
  rw [mem_acceptedPairs]
  constructor
  · rintro ⟨b, hb, haccepted, hpair⟩
    obtain ⟨p', hp', hvariant⟩ := h.accepted b hb haccepted
    rw [hpair] at hp' hvariant
    cases hp'.symm.trans hp
    rw [hvariant]
    rfl
  · intro hsome
    obtain ⟨number, hvariant⟩ := Option.isSome_iff_exists.mp hsome
    exact ⟨_, h.build_of_variant hp hvariant, rfl, rfl⟩

/-! ### Growth -/

/-- Other calls are recorded, which set accepted pipelines only. -/
lemma record (h : Memo cache layouts l) {events : List GpuEvent}
    (hcreate : ∀ number label description,
      GpuEvent.createPipeline number label description ∉ events)
    (hset : ∀ number, .setPipeline number ∈ events →
      ∃ b ∈ l.builds, b.accepted ∧ b.number = number) :
    Memo cache layouts { l with events := l.events ++ events } :=
  { h with
    created := fun number label description hmem => by
      rcases List.mem_append.mp hmem with hold | hnew
      · exact h.created number label description hold
      · exact absurd hnew (hcreate number label description)
    listed := fun b hb => by
      obtain ⟨label, hmem⟩ := h.listed b hb
      exact ⟨label, List.mem_append_left _ hmem⟩
    set := fun number hmem => by
      rcases List.mem_append.mp hmem with hold | hnew
      · exact h.set number hold
      · exact hset number hnew }

/-- A pipeline was built under the next number, and the variants are still those accepted. -/
lemma built (h : Memo cache layouts l) {variants : Table (ℕ × DepthStencilKey) ℕ}
    {b : PipelineBuild} (hnumber : b.number = l.pipelines + 1)
    (hkept : ∀ id dkey number, variants.get? (id, dkey) = some number →
      ∃ key p, cache.pipelines.get? key = some p ∧ p.id = id ∧
        ⟨(key, dkey), number, p.template.describe (.of dkey), true⟩ ∈ l.builds ++ [b])
    (haccepted : ∀ b' ∈ l.builds ++ [b], b'.accepted →
      ∃ p, cache.pipelines.get? b'.pair.1 = some p ∧
        variants.get? (p.id, b'.pair.2) = some b'.number)
    (hnodup : (acceptedPairs (l.builds ++ [b])).Nodup)
    (hgives : ∃ template, layouts.Gives b.pair.1 template) (label : Option String) :
    Memo cache layouts (l.built variants b label) where
  numbered := h.numbered
  template := h.template
  buildable b' hb' := by
    rcases List.mem_append.mp hb' with hold | hnew
    · exact h.buildable b' hold
    · rw [List.mem_singleton.mp hnew]
      exact hgives
  depthStencil := h.depthStencil
  kept := hkept
  accepted := haccepted
  nodup := hnodup
  numbers := by
    rw [PipelineLedger.built, List.map_append]
    refine List.nodup_append.mpr ⟨h.numbers, List.nodup_singleton _, fun n hn n' hn' => ?_⟩
    obtain ⟨b', hb', rfl⟩ := List.mem_map.mp hn
    have heq : n' = b.number := List.mem_singleton.mp hn'
    rw [heq, hnumber]
    exact Nat.ne_of_lt (Nat.lt_succ_of_le (h.number_le b' hb'))
  number_le b' hb' := by
    rcases List.mem_append.mp hb' with hold | hnew
    · exact (h.number_le b' hold).trans (Nat.le_succ _)
    · rw [List.mem_singleton.mp hnew, hnumber]
      exact le_rfl
  created number label' description hmem := by
    rcases List.mem_append.mp hmem with hold | hnew
    · obtain ⟨b', hb', hsame⟩ := h.created number label' description hold
      exact ⟨b', List.mem_append_left _ hb', hsame⟩
    · simp only [GpuDevice.buildEvents, List.mem_cons, reduceCtorEq, false_or, or_false,
        GpuEvent.createPipeline.injEq, List.not_mem_nil] at hnew
      exact ⟨b, List.mem_append_right _ List.mem_cons_self, hnew.1.symm, hnew.2.2.symm⟩
  listed b' hb' := by
    rcases List.mem_append.mp hb' with hold | hnew
    · obtain ⟨label', hmem⟩ := h.listed b' hold
      exact ⟨label', List.mem_append_left _ hmem⟩
    · rw [List.mem_singleton.mp hnew]
      exact ⟨label, List.mem_append_right _ (by simp [GpuDevice.buildEvents])⟩
  set number hmem := by
    rcases List.mem_append.mp hmem with hold | hnew
    · obtain ⟨b', hb', hsame⟩ := h.set number hold
      exact ⟨b', List.mem_append_left _ hb', hsame⟩
    · simp [GpuDevice.buildEvents] at hnew

/-- A pipeline that is rejected is not remembered. -/
lemma reject (h : Memo cache layouts l) {key : PipelineKey} {template : PipelineTemplate}
    (hgives : layouts.Gives key template) (dkey : DepthStencilKey)
    (description : PipelineDescription) (label : Option String) :
    Memo cache layouts
      (l.built l.variants ⟨(key, dkey), l.pipelines + 1, description, false⟩ label) := by
  refine h.built rfl (fun id dkey number hvariant => ?_) (fun b hb haccepted => ?_) ?_
    ⟨template, hgives⟩ label
  · obtain ⟨key, p, hp, hid, hbuild⟩ := h.kept id dkey number hvariant
    exact ⟨key, p, hp, hid, List.mem_append_left _ hbuild⟩
  · rcases List.mem_append.mp hb with hold | hnew
    · exact h.accepted b hold haccepted
    · rw [List.mem_singleton.mp hnew] at haccepted
      cases haccepted
  · have hpairs : acceptedPairs (l.builds ++
        [⟨(key, dkey), l.pipelines + 1, description, false⟩]) = acceptedPairs l.builds := by
      simp [acceptedPairs]
    rw [hpairs]
    exact h.nodup

/-- A pipeline that is accepted for a cached template is remembered, for a pair of keys that had
none. -/
lemma build (h : Memo cache layouts l) {key : PipelineKey} {p : GpuPipeline}
    (hp : cache.pipelines.get? key = some p) (dkey : DepthStencilKey)
    (hfree : l.variants.get? (p.id, dkey) = none) (label : Option String) :
    Memo cache layouts (l.built (l.variants.insert (p.id, dkey) (l.pipelines + 1))
      ⟨(key, dkey), l.pipelines + 1, p.template.describe (.of dkey), true⟩ label) := by
  refine h.built rfl (fun id dkey' number hvariant => ?_) (fun b hb haccepted => ?_) ?_
    ⟨_, h.template key p hp⟩ label
  · rw [Table.get?_insert] at hvariant
    split at hvariant
    · rename_i hsame
      cases hsame
      cases hvariant
      exact ⟨key, p, hp, rfl, List.mem_append_right _ List.mem_cons_self⟩
    · obtain ⟨key', p', hp', hid, hbuild⟩ := h.kept id dkey' number hvariant
      exact ⟨key', p', hp', hid, List.mem_append_left _ hbuild⟩
  · rcases List.mem_append.mp hb with hold | hnew
    · obtain ⟨p', hp', hvariant⟩ := h.accepted b hold haccepted
      exact ⟨p', hp', Table.get?_insert_of_free hfree hvariant⟩
    · rw [List.mem_singleton.mp hnew]
      exact ⟨p, hp, by rw [Table.get?_insert, if_pos rfl]⟩
  · have hnot : (key, dkey) ∉ acceptedPairs l.builds := by
      rw [h.mem_acceptedPairs_iff hp, hfree]
      exact Bool.false_ne_true
    have hpairs : acceptedPairs (l.builds ++ [⟨(key, dkey), l.pipelines + 1,
        p.template.describe (.of dkey), true⟩]) = acceptedPairs l.builds ++ [(key, dkey)] := by
      simp [acceptedPairs]
    rw [hpairs]
    refine List.nodup_append.mpr ⟨h.nodup, List.nodup_singleton _, fun pair hmem pair' hmem' =>
      ?_⟩
    rintro rfl
    exact hnot (List.mem_singleton.mp hmem' ▸ hmem)

/-- A template that is not kept leaves its number out. -/
lemma skip (h : Memo cache layouts l) {templates : ℕ} (hle : l.templates ≤ templates) :
    Memo cache layouts { l with templates } := { h with numbered := h.numbered.mono hle }

/-- A new template is cached under a key that was free. -/
lemma insert (h : Memo cache layouts l) {key : PipelineKey} {template : PipelineTemplate}
    (hfree : cache.pipelines.get? key = none)
    (hgives : layouts.Gives key template)
    (hpipelines : cache'.pipelines =
      cache.pipelines.insert key ⟨l.templates + 1, template⟩)
    (hdepthStencils : cache'.depthStencils = cache.depthStencils) :
    Memo cache' layouts { l with templates := l.templates + 1 } where
  numbered := by
    rw [hpipelines]
    exact h.numbered.insert key rfl
  template key' p hp := by
    rw [hpipelines, Table.get?_insert] at hp
    split at hp
    · rename_i hsame
      cases hp
      rw [hsame]
      exact hgives
    · exact h.template key' p hp
  buildable := h.buildable
  depthStencil := by
    rw [hdepthStencils]
    exact h.depthStencil
  kept id dkey number hvariant := by
    obtain ⟨key', p, hp, hid, hbuild⟩ := h.kept id dkey number hvariant
    rw [hpipelines]
    exact ⟨key', p, Table.get?_insert_of_free hfree hp, hid, hbuild⟩
  accepted b hb haccepted := by
    obtain ⟨p, hp, hvariant⟩ := h.accepted b hb haccepted
    rw [hpipelines]
    exact ⟨p, Table.get?_insert_of_free hfree hp, hvariant⟩
  nodup := h.nodup
  numbers := h.numbers
  number_le := h.number_le
  created := h.created
  listed := h.listed
  set := h.set

/-- Only the tables of the cache matter. A new depth-stencil object is that of its key. -/
lemma recache (h : Memo cache layouts l) (hpipelines : cache'.pipelines = cache.pipelines)
    (hdepthStencil : ∀ key q, cache'.depthStencils.get? key = some q → q = .of key) :
    Memo cache' layouts l := by
  obtain ⟨pipelines', depthStencils', hits, misses, failures⟩ := cache'
  obtain rfl : pipelines' = cache.pipelines := hpipelines
  exact { h with depthStencil := hdepthStencil }

/-- New layouts leave the templates those of their keys. -/
lemma relayout (h : Memo cache layouts l) (hextends : layouts.Extends layouts') :
    Memo cache layouts' l :=
  { h with
    template := fun key p hp => (h.template key p hp).mono hextends
    buildable := fun b hb => by
      obtain ⟨template, hgives⟩ := h.buildable b hb
      exact ⟨template, hgives.mono hextends⟩ }

end Memo

end RenderBridge
