import Mathlib.Tactic
import RenderBridge.Proofs.Fault
import RenderBridge.Proofs.Vertex.Packed
import RenderBridge.Vertex.Layout
/-!
Which descriptions of vertex layouts are read, and as what.

* `AttributeWords.Valid`, `ValidAttributes`: the numbers that a description may hold, said without
  the order in which they are checked.
* `AttributeWords.Means`: the element that numbers stand for.
* `VertexElement.ofPacked_eq_ok_iff`, `ofPackedList_eq_ok_iff`: what one attribute and what a
  list of them is read as, after elements that stand already.
* `VertexLayout.parse_exact`: **exactly the valid descriptions are read, attribute by attribute**.
-/

set_option autoImplicit false

namespace RenderBridge

/-! ### The tables -/

/-- The number by which a host states a usage. -/
def VertexUsage.tag : VertexUsage → ℤ
  | position => 0
  | normal => 1
  | color => 2
  | uv => 3
  | generic => 4

lemma VertexUsage.ofTag_eq_ok_iff {tag : ℤ} {usage : VertexUsage} :
    ofTag tag = .ok usage ↔ usage.tag = tag := by
  constructor
  · intro h
    simp only [ofTag] at h
    split_ifs at h with h₀ h₁ h₂ h₃ h₄ <;> cases h <;> simp [VertexUsage.tag, *]
  · rintro rfl
    cases usage <;> rfl

lemma VertexUsage.ofTag_error {tag : ℤ} {fault : Fault} (h : ofTag tag = .error fault) :
    ∃ cause, fault = .invalidArgument cause ∧ cause.IsOwn := by
  simp only [ofTag] at h
  split_ifs at h
  cases h
  exact ⟨_, rfl, rfl⟩

lemma VertexUsage.exists_tag_eq_iff {tag : ℤ} :
    (∃ usage : VertexUsage, usage.tag = tag) ↔ 0 ≤ tag ∧ tag ≤ 4 := by
  constructor
  · rintro ⟨usage, rfl⟩
    cases usage <;> simp [VertexUsage.tag]
  · rintro ⟨hlow, hhigh⟩
    obtain rfl | rfl | rfl | rfl | rfl : tag = 0 ∨ tag = 1 ∨ tag = 2 ∨ tag = 3 ∨ tag = 4 := by
      omega
    exacts [⟨.position, rfl⟩, ⟨.normal, rfl⟩, ⟨.color, rfl⟩, ⟨.uv, rfl⟩, ⟨.generic, rfl⟩]

/-- No combination is listed twice, so that the first entry found is the only one. -/
lemma vertexFormat_eq_some_iff {type count : ℕ} {normalized : Bool} {format : VertexFormat} :
    vertexFormat type count normalized = some format ↔
      ((type, count, normalized), format) ∈ vertexFormats := by
  constructor
  · intro h
    obtain ⟨before, after, hsplit, -⟩ := List.lookup_eq_some_iff.mp h
    rw [hsplit]
    exact List.mem_append_right _ List.mem_cons_self
  · have hlisted : ∀ entry ∈ vertexFormats, vertexFormats.lookup entry.1 = some entry.2 := by
      decide
    exact hlisted _

namespace AttributeWords

/-! ### Numbers and what they mean -/

/-- The table lists the format for the type, the count and the normalisation. -/
def HasFormat (w : AttributeWords) (format : VertexFormat) : Prop :=
  ∃ type count : ℕ, w.type = type ∧ w.count = count ∧
    ((type, count, decide (w.normalized ≠ 0)), format) ∈ vertexFormats

/-- What one attribute must satisfy by itself. -/
structure Valid (stride : ℤ) (w : AttributeWords) : Prop where
  usage : 0 ≤ w.usage ∧ w.usage ≤ 4
  index : 0 ≤ w.index ∧ w.index ≤ 15
  format : ∃ format : VertexFormat, w.HasFormat format ∧
    0 ≤ w.offset ∧ w.offset + format.size ≤ stride

/-- The element that the numbers stand for. -/
structure Means (w : AttributeWords) (e : VertexElement) : Prop where
  location : (e.location : ℤ) = w.index
  usage : e.usage.tag = w.usage
  format : w.HasFormat e.format
  offset : (e.offset : ℤ) = w.offset
  uvIndex : (e.uvIndex : ℤ) = max w.uv 0

end AttributeWords

/-- A list of attributes, each valid and each at an index of its own. -/
def ValidAttributes (stride : ℤ) (ws : List AttributeWords) : Prop :=
  (∀ w ∈ ws, w.Valid stride) ∧ ws.Pairwise fun earlier w => earlier.index ≠ w.index

/-- Attributes take room. -/
lemma ValidAttributes.stride_pos {stride : ℤ} {ws : List AttributeWords}
    (h : ValidAttributes stride ws) (hne : ws ≠ []) : 0 < stride := by
  obtain ⟨w, hw⟩ := List.exists_mem_of_ne_nil ws hne
  obtain ⟨format, -, hoffset, hinside⟩ := (h.1 w hw).format
  have hsize : 0 < format.size := by cases format <;> decide
  omega

/-! ### What is read -/

/-- Elements that may stand together in one vertex. -/
structure VertexElement.Placed (stride : ℕ) (es : List VertexElement) : Prop where
  location_lt : ∀ e ∈ es, e.location < 16
  inside : ∀ e ∈ es, e.offset + e.format.size ≤ stride
  distinct : (es.map (·.location)).Nodup

namespace VertexElement

variable {stride position : ℕ} {earlier es : List VertexElement}

lemma Placed.nil : Placed stride [] where
  location_lt _ h := by cases h
  inside _ h := by cases h
  distinct := List.nodup_nil

lemma Placed.of_append {later : List VertexElement} (h : Placed stride (earlier ++ later)) :
    Placed stride earlier where
  location_lt e he := h.location_lt e (List.mem_append_left _ he)
  inside e he := h.inside e (List.mem_append_left _ he)
  distinct := by
    have := h.distinct
    rw [List.map_append] at this
    exact this.of_append_left

/-- One more element needs a location of its own and room. -/
lemma Placed.append_singleton_iff (h : Placed stride earlier) {e : VertexElement} :
    Placed stride (earlier ++ [e]) ↔
      e.location < 16 ∧ e.offset + e.format.size ≤ stride ∧
        ∀ e' ∈ earlier, e'.location ≠ e.location := by
  constructor
  · intro hall
    have hdistinct := hall.distinct
    rw [List.map_append, List.nodup_append] at hdistinct
    have hlast : e ∈ earlier ++ [e] := List.mem_append_right _ List.mem_cons_self
    exact ⟨hall.location_lt e hlast, hall.inside e hlast, fun e' he' =>
      hdistinct.2.2 _ (List.mem_map_of_mem he') _ List.mem_cons_self⟩
  · rintro ⟨hlocation, hinside, hfresh⟩
    constructor
    · simpa [or_imp, forall_and] using ⟨h.location_lt, hlocation⟩
    · simpa [or_imp, forall_and] using ⟨h.inside, hinside⟩
    · rw [List.map_append, List.nodup_append]
      refine ⟨h.distinct, List.nodup_singleton _, ?_⟩
      simpa using hfresh

/-- One attribute after elements that stand already: what it means, and only where that has its
place. -/
lemma ofPacked_eq_ok_iff {a : PackedAttribute} {e : VertexElement} :
    ofPacked stride position earlier a = .ok e ↔
      a.numbers.Means e ∧ e.location < 16 ∧ e.offset + e.format.size ≤ stride ∧
        ∀ e' ∈ earlier, e'.location ≠ e.location := by
  constructor
  · intro h
    simp only [ofPacked, maxAttributes] at h
    split at h
    · cases h
    · rename_i usage husage
      -- Each check passes or gives an error.
      split at h
      · cases h
      split at h
      · cases h
      split at h
      · cases h
      rename_i hindex hfresh hsign
      split at h
      · cases h
      · rename_i format hformat
        split_ifs at h with hoffset hinside
        cases h
        rw [VertexUsage.ofTag_eq_ok_iff] at husage
        rw [vertexFormat_eq_some_iff] at hformat
        have hnew : ∀ e' ∈ earlier, e'.location ≠ a.index.toInt.toNat := by
          simpa using hfresh
        refine ⟨⟨?_, husage, ⟨_, _, ?_, ?_, hformat⟩, ?_, ?_⟩, ?_, ?_, hnew⟩
        all_goals simp only [PackedAttribute.numbers]
        all_goals omega
  · rintro ⟨h, hlocation, hinside, hfresh⟩
    obtain ⟨type, count, htype, hcount, hmem⟩ := h.format
    have hindex := h.location
    have hoffset := h.offset
    have huv := h.uvIndex
    simp only [PackedAttribute.numbers] at htype hcount hmem hindex hoffset huv
    have hdup : ¬ (earlier.any fun e' => e'.location = a.index.toInt.toNat) := by
      simpa [← hindex] using hfresh
    have hfound : vertexFormat a.componentType.toInt.toNat a.componentCount.toInt.toNat
        (decide (a.normalized.toInt ≠ 0)) = some e.format := by
      rw [htype, hcount, Int.toNat_natCast, Int.toNat_natCast, vertexFormat_eq_some_iff]
      exact hmem
    have husage : VertexUsage.ofTag a.usage.toInt = .ok e.usage :=
      VertexUsage.ofTag_eq_ok_iff.mpr h.usage
    have hlocation' : a.index.toInt.toNat = e.location := by omega
    have hoffset' : a.offset.toInt.toNat = e.offset := by omega
    have huv' : a.uvIndex.toInt.toNat = e.uvIndex := by omega
    simp only [ofPacked, maxAttributes]
    rw [husage]
    dsimp only
    rw [if_neg (by omega), if_neg hdup, if_neg (by omega), hfound]
    dsimp only
    rw [if_neg (by omega), if_neg (by omega), hlocation', hoffset', huv']

/-- What is wrong with an attribute is told as an invalid argument of the engine's own. -/
lemma ofPacked_error {a : PackedAttribute} {fault : Fault}
    (h : ofPacked stride position earlier a = .error fault) :
    ∃ cause, fault = .invalidArgument cause ∧ cause.IsOwn := by
  simp only [ofPacked] at h
  split at h
  · rename_i fault' husage
    cases h
    exact VertexUsage.ofTag_error husage
  repeat' split at h
  all_goals cases h
  all_goals exact ⟨_, rfl, rfl⟩

/-- A list of attributes after elements that stand already: what each of them means, and only where
all have their places together. -/
lemma ofPackedList_eq_ok_iff {as : List PackedAttribute} (h : Placed stride earlier) :
    ofPackedList stride earlier as = .ok es ↔
      ∃ new, es = earlier ++ new ∧
        List.Forall₂ (fun a e => a.numbers.Means e) as new ∧ Placed stride es := by
  induction as generalizing earlier with
  | nil =>
    rw [ofPackedList]
    constructor
    · rintro ⟨⟩
      exact ⟨[], (List.append_nil _).symm, .nil, h⟩
    · rintro ⟨new, rfl, hnew, -⟩
      rw [List.forall₂_nil_left_iff.mp hnew, List.append_nil]
  | cons a as ih =>
    rw [ofPackedList]
    constructor
    · intro hread
      split at hread
      · rename_i e he
        obtain ⟨hmeans, hplace⟩ := ofPacked_eq_ok_iff.mp he
        obtain ⟨new, rfl, hnew, hall⟩ := (ih (h.append_singleton_iff.mpr hplace)).mp hread
        exact ⟨e :: new, by simp, .cons hmeans hnew, hall⟩
      · cases hread
    · rintro ⟨new, rfl, hnew, hall⟩
      cases hnew with
      | @cons _ e _ new hmeans hnew =>
        have hjoin : earlier ++ e :: new = earlier ++ [e] ++ new := List.append_cons ..
        rw [hjoin] at hall
        have hplaced : Placed stride (earlier ++ [e]) := hall.of_append
        rw [ofPacked_eq_ok_iff.mpr ⟨hmeans, h.append_singleton_iff.mp hplaced⟩]
        exact (ih hplaced).mpr ⟨new, hjoin, hnew, hjoin ▸ hall⟩

lemma ofPackedList_error {as : List PackedAttribute} {fault : Fault}
    (h : ofPackedList stride earlier as = .error fault) :
    ∃ cause, fault = .invalidArgument cause ∧ cause.IsOwn := by
  induction as generalizing earlier with
  | nil => cases h
  | cons a as ih =>
    rw [ofPackedList] at h
    split at h
    · exact ih h
    · rename_i hread
      cases h
      exact ofPacked_error hread

/-! ### Which lists can be read -/

/-- An attribute is valid when what it means has a place in the stride. -/
lemma exists_means_iff {w : AttributeWords} :
    (∃ e, w.Means e ∧ e.location < 16 ∧ e.offset + e.format.size ≤ stride) ↔ w.Valid stride := by
  constructor
  · rintro ⟨e, h, hlocation, hinside⟩
    have hindex := h.location
    have hoffset := h.offset
    refine ⟨VertexUsage.exists_tag_eq_iff.mp ⟨e.usage, h.usage⟩, ?_, e.format, h.format, ?_, ?_⟩
    all_goals omega
  · intro h
    obtain ⟨usage, husage⟩ := VertexUsage.exists_tag_eq_iff.mpr h.usage
    obtain ⟨format, hformat, hoffset, hinside⟩ := h.format
    have hindex := h.index
    refine ⟨⟨w.index.toNat, usage, format, w.offset.toNat, w.uv.toNat⟩,
      ⟨?_, husage, hformat, ?_, ?_⟩, ?_, ?_⟩
    all_goals dsimp only
    all_goals omega

lemma exists_forall₂_means_iff {ws : List AttributeWords} :
    (∃ es, List.Forall₂ AttributeWords.Means ws es ∧
        ∀ e ∈ es, e.location < 16 ∧ e.offset + e.format.size ≤ stride) ↔
      ∀ w ∈ ws, w.Valid stride := by
  induction ws with
  | nil => simp
  | cons w ws ih =>
    rw [List.forall_mem_cons, ← ih, ← exists_means_iff]
    constructor
    · rintro ⟨_, hall, hplaces⟩
      obtain ⟨e, es, hw, hws, rfl⟩ := List.forall₂_cons_left_iff.mp hall
      obtain ⟨hplace, hplaces⟩ := List.forall_mem_cons.mp hplaces
      exact ⟨⟨e, hw, hplace⟩, es, hws, hplaces⟩
    · rintro ⟨⟨e, hw, hplace⟩, es, hws, hplaces⟩
      exact ⟨e :: es, .cons hw hws, List.forall_mem_cons.mpr ⟨hplace, hplaces⟩⟩

lemma map_location_of_means {ws : List AttributeWords}
    (h : List.Forall₂ AttributeWords.Means ws es) :
    es.map (fun e => (e.location : ℤ)) = ws.map (·.index) := by
  induction h with
  | nil => rfl
  | cons hmeans _ ih => rw [List.map_cons, List.map_cons, hmeans.location, ih]

/-- The locations are the indexes, so that they differ where those do. -/
lemma nodup_location_iff {ws : List AttributeWords}
    (h : List.Forall₂ AttributeWords.Means ws es) :
    (es.map (·.location)).Nodup ↔ ws.Pairwise fun earlier w => earlier.index ≠ w.index := by
  have hmap : (es.map (·.location)).map (fun n : ℕ => (n : ℤ)) = ws.map (·.index) := by
    rw [List.map_map]
    exact map_location_of_means h
  calc (es.map (·.location)).Nodup
      ↔ ((es.map (·.location)).map (fun n : ℕ => (n : ℤ))).Nodup :=
        (List.nodup_map_iff Nat.cast_injective).symm
    _ ↔ (ws.map (·.index)).Nodup := by rw [hmap]
    _ ↔ ws.Pairwise fun earlier w => earlier.index ≠ w.index := by
      rw [List.Nodup, List.pairwise_map]

/-- Elements with places of their own are found for valid attributes, and for no others. -/
lemma exists_placed_iff {ws : List AttributeWords} :
    (∃ es, List.Forall₂ AttributeWords.Means ws es ∧ Placed stride es) ↔
      ValidAttributes stride ws := by
  rw [ValidAttributes, ← exists_forall₂_means_iff]
  constructor
  · rintro ⟨es, hmeans, hplaced⟩
    exact ⟨⟨es, hmeans, fun e he => ⟨hplaced.location_lt e he, hplaced.inside e he⟩⟩,
      (nodup_location_iff hmeans).mp hplaced.distinct⟩
  · rintro ⟨⟨es, hmeans, hplaces⟩, hdistinct⟩
    exact ⟨es, hmeans, fun e he => (hplaces e he).1, fun e he => (hplaces e he).2,
      (nodup_location_iff hmeans).mpr hdistinct⟩

/-- Only sixteen elements have locations of their own. -/
lemma Placed.length_le (h : Placed stride es) : es.length ≤ 16 := by
  have hsub : es.map (·.location) ⊆ List.range 16 := by
    intro location hmem
    obtain ⟨e, he, rfl⟩ := List.mem_map.mp hmem
    exact List.mem_range.mpr (h.location_lt e he)
  calc es.length = (es.map (·.location)).length := (List.length_map _).symm
    _ ≤ (List.range 16).length := (h.distinct.subperm hsub).length_le
    _ = 16 := List.length_range

end VertexElement

namespace VertexLayout

variable {stride count : ℤ} {packed : Bytes} {layout : VertexLayout}

/-- A description is read as what its groups of words mean, where that makes a layout. -/
lemma parse_eq_ok_iff : parse stride count packed = .ok layout ↔
    0 < stride ∧ 0 < count ∧ (packed.size : ℤ) = 28 * count ∧ layout.stride = stride ∧
      List.Forall₂ AttributeWords.Means (packed.attributes count.toNat) layout.elements ∧
        VertexElement.Placed layout.stride layout.elements := by
  have hread : packed.size = 28 * count.toNat → ∀ stride' es,
      VertexElement.ofPackedList stride' [] (unpackAttributes count.toNat packed) = .ok es ↔
        List.Forall₂ AttributeWords.Means (packed.attributes count.toNat) es ∧
          VertexElement.Placed stride' es := by
    intro hsize stride' es
    rw [VertexElement.ofPackedList_eq_ok_iff .nil, ← map_numbers_unpackAttributes hsize,
      List.forall₂_map_left_iff]
    simp
  constructor
  · intro h
    simp only [parse] at h
    split at h
    · cases h
    split at h
    · cases h
    split at h
    · cases h
    rename_i hstride hcount hsize
    have hsize : packed.size = 28 * count.toNat := by
      rw [not_not] at hsize
      rw [hsize]
      exact Nat.mul_comm _ _
    split at h
    · rename_i elements helements
      cases h
      exact ⟨by omega, by omega, by omega, Int.toNat_of_nonneg (by omega),
        (hread hsize _ _).mp helements⟩
    · cases h
  · rintro ⟨hstride, hcount, hsize, hlayout, hmeans, hplaced⟩
    have hsize : packed.size = 28 * count.toNat := by omega
    have hexpected : packed.size = count.toNat * PackedAttribute.size := by
      rw [hsize]
      exact Nat.mul_comm _ _
    have hstride' : stride.toNat = layout.stride := by omega
    simp only [parse]
    rw [if_neg (by omega), if_neg (by omega), if_neg (not_not_intro hexpected), hstride',
      (hread hsize _ _).mpr ⟨hmeans, hplaced⟩]

lemma parse_error {fault : Fault} (h : parse stride count packed = .error fault) :
    ∃ cause, fault = .invalidArgument cause ∧ cause.IsOwn := by
  simp only [parse] at h
  split at h
  · cases h
    exact ⟨_, rfl, rfl⟩
  split at h
  · cases h
    exact ⟨_, rfl, rfl⟩
  split at h
  · cases h
    exact ⟨_, rfl, rfl⟩
  split at h
  · cases h
  · rename_i hread
    cases h
    exact VertexElement.ofPackedList_error hread

/-- The descriptions that are read, by their words alone. -/
lemma exists_parse_eq_ok_iff : (∃ layout, parse stride count packed = .ok layout) ↔
    0 < stride ∧ 0 < count ∧ (packed.size : ℤ) = 28 * count ∧
      ValidAttributes stride (packed.attributes count.toNat) := by
  constructor
  · rintro ⟨layout, h⟩
    obtain ⟨hstride, hcount, hsize, hlayout, hread⟩ := parse_eq_ok_iff.mp h
    refine ⟨hstride, hcount, hsize, ?_⟩
    rw [← hlayout]
    exact VertexElement.exists_placed_iff.mp ⟨_, hread⟩
  · rintro ⟨hstride, hcount, hsize, hvalid⟩
    have hlayout : (stride.toNat : ℤ) = stride := Int.toNat_of_nonneg hstride.le
    rw [← hlayout, ← VertexElement.exists_placed_iff] at hvalid
    obtain ⟨es, hread⟩ := hvalid
    exact ⟨⟨stride.toNat, es⟩, parse_eq_ok_iff.mpr ⟨hstride, hcount, hsize, hlayout, hread⟩⟩

/-- **Descriptions are read exactly.** For every stride, count and byte string: a layout comes out
if and only if the stride and the count are positive, the string has 28 bytes for each attribute,
and the attributes in it are valid; everything else is an invalid argument. The layout has the
stride that was given and, in order, the elements that the attributes mean; they are no more than
sixteen, at locations of their own, and inside the stride. In particular, packed attributes are
read if there are any and all are valid, and as what they mean. -/
theorem parse_exact (stride count : ℤ) (packed : Bytes) :
    ((∃ layout, parse stride count packed = .ok layout) ↔
        0 < stride ∧ 0 < count ∧ (packed.size : ℤ) = 28 * count ∧
          ValidAttributes stride (packed.attributes count.toNat)) ∧
      ((∃ layout, parse stride count packed = .ok layout) ∨
        ∃ cause, parse stride count packed = .error (.invalidArgument cause)) ∧
      (∀ layout, parse stride count packed = .ok layout →
        layout.stride = stride ∧
          List.Forall₂ AttributeWords.Means (packed.attributes count.toNat) layout.elements ∧
          layout.elements.length ≤ 16 ∧
          (layout.elements.map (·.location)).Nodup ∧
          ∀ e ∈ layout.elements, e.location < 16 ∧ e.offset + e.format.size ≤ layout.stride) ∧
      ∀ ws : List PackedAttribute,
        ((∃ layout, parse stride ws.length (packAttributes ws) = .ok layout) ↔
          ws ≠ [] ∧ ValidAttributes stride (ws.map (·.numbers))) ∧
        ∀ layout, parse stride ws.length (packAttributes ws) = .ok layout →
          layout.stride = stride ∧
            List.Forall₂ AttributeWords.Means (ws.map (·.numbers)) layout.elements := by
  refine ⟨exists_parse_eq_ok_iff, ?_, ?_, ?_⟩
  · cases hread : parse stride count packed with
    | ok layout => exact .inl ⟨layout, rfl⟩
    | error fault =>
      obtain ⟨cause, rfl, -⟩ := parse_error hread
      exact .inr ⟨cause, rfl⟩
  · intro layout h
    obtain ⟨-, -, -, hstride, hmeans, hplaced⟩ := parse_eq_ok_iff.mp h
    exact ⟨hstride, hmeans, hplaced.length_le, hplaced.distinct,
      fun e he => ⟨hplaced.location_lt e he, hplaced.inside e he⟩⟩
  · intro ws
    have hsize := size_packAttributes ws
    have hwords : (packAttributes ws).attributes (ws.length : ℤ).toNat = ws.map (·.numbers) := by
      rw [Int.toNat_natCast, ← map_numbers_unpackAttributes hsize, unpackAttributes_packAttributes]
    constructor
    · rw [exists_parse_eq_ok_iff, hwords]
      constructor
      · rintro ⟨-, hcount, -, hvalid⟩
        exact ⟨fun hnil => by simp [hnil] at hcount, hvalid⟩
      · rintro ⟨hne, hvalid⟩
        exact ⟨hvalid.stride_pos (by simpa using hne), by simpa using List.length_pos_of_ne_nil hne,
          by omega, hvalid⟩
    · intro layout h
      obtain ⟨-, -, -, hstride, hmeans, -⟩ := parse_eq_ok_iff.mp h
      exact ⟨hstride, hwords ▸ hmeans⟩

example : parse 24 2 (packAttributes [⟨0, 0, 0x1406, 3, 0, 0, 0⟩, ⟨1, 2, 0x1401, 4, 12, 1, -1⟩]) =
    .ok ⟨24, [⟨0, .position, .float32x3, 0, 0⟩, ⟨1, .color, .unorm8x4, 12, 0⟩]⟩ := by
  decide +kernel

end VertexLayout

end RenderBridge
