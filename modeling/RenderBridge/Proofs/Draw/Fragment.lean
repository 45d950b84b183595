import Mathlib.Data.Nat.Bitwise
import Mathlib.Tactic
import RenderBridge.Draw.Resolve
import RenderBridge.Gpu.Template
/-!
What becomes of a fragment at the depth and stencil tests, by the rules of the legacy state and by
those of explicit pipelines.

* `Texel`, `FragmentOutcome`: what is stored at a place, and what a fragment makes of it.
* `Snapshot.fragment`: the legacy rules, read off the raw numbers of the render state.
* `DepthStencilTest.fragment`: the rules of explicit pipelines, on eight bits.
* `Token.holds_compareFunction`, `Token.toNat_apply_stencilOperation`: the tables of tokens mean the
  same under both.
* `fragment_faithful`: **every fragment has the same outcome** under both.
-/

set_option autoImplicit false

namespace RenderBridge

/-- What is stored at one place of the depth-stencil target. -/
structure Texel (α : Type) where
  depth : α
  stencil : UInt8
deriving DecidableEq

/-- Whether a fragment survives the tests, and what is stored after them. -/
structure FragmentOutcome (α : Type) where
  survives : Bool
  texel : Texel α
deriving DecidableEq

/-! ### The legacy rules -/

namespace Legacy

/-- A comparison by its number. Under any other number everything passes. -/
def compare {α : Type} [LinearOrder α] (token : UInt32) (incoming stored : α) : Bool :=
  match token.toNat with
  | 0x0200 => false
  | 0x0201 => incoming < stored
  | 0x0202 => incoming = stored
  | 0x0203 => incoming ≤ stored
  | 0x0204 => stored < incoming
  | 0x0205 => incoming ≠ stored
  | 0x0206 => stored ≤ incoming
  | _ => true

/-- What an operation makes of a stored value below 256, by its number. Under any other number the
value is kept. -/
def operate (token : UInt32) (reference stored : ℕ) : ℕ :=
  match token.toNat with
  | 0x0000 => 0
  | 0x1E01 => reference
  | 0x1E02 => min (stored + 1) 255
  | 0x1E03 => stored - 1
  | 0x150A => 255 - stored
  | 0x8507 => (stored + 1) % 256
  | 0x8508 => (stored + 255) % 256
  | _ => stored

/-- Writes the bits of a mask and leaves the others. -/
def write (mask : UInt32) (value stored : ℕ) : ℕ :=
  stored.ldiff mask.toNat ||| (value &&& mask.toNat)

end Legacy

namespace StencilState

/-- The reference value brought into eight bits. -/
def clampedReference (s : StencilState) : ℕ := (max 0 (min s.reference 255)).toNat

/-- Whether a fragment passes. Without the test every one does. -/
def passes (s : StencilState) (stored : UInt8) : Bool :=
  !s.enabled || Legacy.compare s.func (s.clampedReference &&& s.readMask.toNat)
    (stored.toNat &&& s.readMask.toNat)

/-- What an operation leaves in place of a stored value. Without the test nothing is touched. -/
def update (s : StencilState) (operation : UInt32) (stored : UInt8) : UInt8 :=
  if s.enabled then
    .ofNat (Legacy.write s.writeMask (Legacy.operate operation s.clampedReference stored.toNat)
      stored.toNat)
  else stored

end StencilState

variable {α : Type} [LinearOrder α]

/-- The outcome of a fragment by the legacy rules. Depth is neither compared nor written without the
depth test. -/
def Snapshot.fragment (s : Snapshot) (incoming : α) (stored : Texel α) : FragmentOutcome α :=
  if s.stencil.passes stored.stencil then
    if !s.depth.testEnabled then
      ⟨true, stored.depth, s.stencil.update s.stencil.passOp stored.stencil⟩
    else if Legacy.compare s.depth.compare incoming stored.depth then
      ⟨true, if s.depth.writeEnabled then incoming else stored.depth,
        s.stencil.update s.stencil.passOp stored.stencil⟩
    else ⟨false, stored.depth, s.stencil.update s.stencil.depthFailOp stored.stencil⟩
  else ⟨false, stored.depth, s.stencil.update s.stencil.failOp stored.stencil⟩

/-! ### The rules of explicit pipelines -/

/-- What a comparison says. -/
def CompareFunction.holds (f : CompareFunction) (incoming stored : α) : Bool :=
  match f with
  | never => false
  | less => incoming < stored
  | equal => incoming = stored
  | lessEqual => incoming ≤ stored
  | greater => stored < incoming
  | notEqual => incoming ≠ stored
  | greaterEqual => stored ≤ incoming
  | always => true

/-- What an operation makes of a stored value. -/
def StencilOperation.apply (op : StencilOperation) (reference stored : UInt8) : UInt8 :=
  match op with
  | keep => stored
  | zero => 0
  | replace => reference
  | invert => ~~~stored
  | incrementClamp => if stored = 255 then stored else stored + 1
  | decrementClamp => if stored = 0 then stored else stored - 1
  | incrementWrap => stored + 1
  | decrementWrap => stored - 1

namespace StencilTest

def face (t : StencilTest) : Face → StencilFace
  | .front => t.front
  | .back => t.back

/-- The bits of a value that a comparison reads. -/
def read (t : StencilTest) (value : UInt8) : UInt8 := value &&& t.readMask.toUInt8

/-- What an operation leaves in place of a stored value. -/
def update (t : StencilTest) (op : StencilOperation) (reference stored : UInt8) : UInt8 :=
  stored &&& ~~~t.writeMask.toUInt8 ||| op.apply reference stored &&& t.writeMask.toUInt8

end StencilTest

/-- The outcome of a fragment of one face by the rules of explicit pipelines. Both tests are always
made. -/
def DepthStencilTest.fragment (t : DepthStencilTest) (side : Face) (reference : UInt8)
    (incoming : α) (stored : Texel α) : FragmentOutcome α :=
  let face := t.stencil.face side
  if face.compare.holds (t.stencil.read reference).toNat (t.stencil.read stored.stencil).toNat then
    if t.depthCompare.holds incoming stored.depth then
      ⟨true, if t.depthWriteEnabled then incoming else stored.depth,
        t.stencil.update face.passOp reference stored.stencil⟩
    else ⟨false, stored.depth, t.stencil.update face.depthFailOp reference stored.stencil⟩
  else ⟨false, stored.depth, t.stencil.update face.failOp reference stored.stencil⟩

/-- The reference value that a command sets. -/
def DrawCommand.reference {P D : Type} : DrawCommand P D → Option ℕ
  | stencilReference value => some value
  | _ => none

/-- The reference value after some commands. It is zero where none sets it, and has eight bits. -/
def referenceAfter {P D : Type} (commands : List (DrawCommand P D)) : UInt8 :=
  .ofNat ((commands.reverse.findSome? DrawCommand.reference).getD 0)

/-! ### Tokens -/

namespace Token

/-- What a table says of a number, or what is said in its place. -/
lemma lookup_getD_cases {ν : Type} (table : List (UInt32 × ν)) (token : UInt32) (default : ν) :
    (token, (table.lookup token).getD default) ∈ table ∨
      (token.toNat ∉ table.map (·.1.toNat) ∧ (table.lookup token).getD default = default) := by
  cases h : table.lookup token with
  | none =>
    rw [List.lookup_eq_none_iff] at h
    refine .inr ⟨fun hmem => ?_, rfl⟩
    obtain ⟨entry, hentry, hnumber⟩ := List.mem_map.mp hmem
    simpa [UInt32.toNat_inj.mp hnumber] using h entry hentry
  | some value =>
    rw [List.lookup_eq_some_iff] at h
    obtain ⟨before, after, rfl, -⟩ := h
    exact .inl (List.mem_append_right _ List.mem_cons_self)

/-- The table of comparisons means what the numbers mean. -/
lemma holds_compareFunction (token : UInt32) (incoming stored : α) :
    (compareFunction token).holds incoming stored = Legacy.compare token incoming stored := by
  rcases lookup_getD_cases compareFunctions token .always with hmem | ⟨hmem, hdefault⟩
  · rw [compareFunction]
    generalize (compareFunctions.lookup token).getD .always = f at hmem
    simp only [compareFunctions, List.mem_cons, Prod.mk.injEq, List.not_mem_nil, or_false] at hmem
    rcases hmem with ⟨rfl, rfl⟩ | ⟨rfl, rfl⟩ | ⟨rfl, rfl⟩ | ⟨rfl, rfl⟩ | ⟨rfl, rfl⟩ | ⟨rfl, rfl⟩ |
      ⟨rfl, rfl⟩ | ⟨rfl, rfl⟩ <;> rfl
  · have hlisted : compareFunctions.map (·.1.toNat) =
        [0x0200, 0x0201, 0x0202, 0x0203, 0x0204, 0x0205, 0x0206, 0x0207] := rfl
    rw [hlisted] at hmem
    rw [compareFunction, hdefault, Legacy.compare]
    split <;> first | rfl | simp_all

/-- The table of operations means what the numbers mean, on values below 256. -/
lemma toNat_apply_stencilOperation (token : UInt32) (reference stored : UInt8) :
    ((stencilOperation token).apply reference stored).toNat =
      Legacy.operate token reference.toNat stored.toNat := by
  have hlt := stored.toNat_lt
  rcases lookup_getD_cases stencilOperations token .keep with hmem | ⟨hmem, hdefault⟩
  · rw [stencilOperation]
    generalize (stencilOperations.lookup token).getD .keep = op at hmem
    simp only [stencilOperations, List.mem_cons, Prod.mk.injEq, List.not_mem_nil, or_false] at hmem
    rcases hmem with ⟨rfl, rfl⟩ | ⟨rfl, rfl⟩ | ⟨rfl, rfl⟩ | ⟨rfl, rfl⟩ | ⟨rfl, rfl⟩ | ⟨rfl, rfl⟩ |
      ⟨rfl, rfl⟩ | ⟨rfl, rfl⟩
    · rfl
    · rfl
    · rfl
    · change (if stored = 255 then stored else stored + 1).toNat = min (stored.toNat + 1) 255
      split
      · rename_i htop
        rw [htop]
        rfl
      · rename_i htop
        have hne : stored.toNat ≠ 255 := fun h => htop (UInt8.toNat_inj.mp h)
        rw [UInt8.toNat_add, UInt8.toNat_one]
        omega
    · change (if stored = 0 then stored else stored - 1).toNat = stored.toNat - 1
      split
      · rename_i hbottom
        rw [hbottom]
        rfl
      · rename_i hbottom
        have hne : stored.toNat ≠ 0 := fun h => hbottom (UInt8.toNat_inj.mp h)
        rw [UInt8.toNat_sub, UInt8.toNat_one]
        omega
    · change (~~~stored).toNat = 255 - stored.toNat
      simp
    · change (stored + 1).toNat = (stored.toNat + 1) % 256
      simp
    · change (stored - 1).toNat = (stored.toNat + 255) % 256
      rw [UInt8.toNat_sub, UInt8.toNat_one]
      omega
  · have hlisted : stencilOperations.map (·.1.toNat) =
        [0x1E00, 0, 0x1E01, 0x1E02, 0x1E03, 0x150A, 0x8507, 0x8508] := rfl
    rw [hlisted] at hmem
    rw [stencilOperation, hdefault, Legacy.operate]
    split <;> first | rfl | simp_all

end Token

/-! ### Masks -/

section

variable (mask : UInt32) (value stored : UInt8)

lemma testBit_toNat_of_le {i : ℕ} (h : 8 ≤ i) : value.toNat.testBit i = false :=
  Nat.testBit_lt_two_pow (value.toNat_lt.trans_le (Nat.pow_le_pow_right (by decide) h))

lemma testBit_toNat_not {i : ℕ} (h : i < 8) :
    (~~~value).toNat.testBit i = !value.toNat.testBit i := by
  have hlt : value.toNat < 2 ^ 8 := value.toNat_lt
  have hnot : (~~~value).toNat = 2 ^ 8 - (value.toNat + 1) := by
    rw [UInt8.toNat_not, UInt8.size]
    omega
  rw [hnot, Nat.testBit_two_pow_sub_succ hlt]
  simp [h]

/-- The mask of a compiled test has the lowest eight bits of the mask in the state. -/
lemma testBit_lowByte (i : ℕ) :
    (mask &&& 0xFF).toUInt8.toNat.testBit i = (decide (i < 8) && mask.toNat.testBit i) := by
  have hbyte : (0xFF : UInt32).toNat = 2 ^ 8 - 1 := rfl
  rw [UInt32.toNat_toUInt8, UInt32.toNat_and, hbyte, Nat.testBit_mod_two_pow, Nat.testBit_and,
    Nat.testBit_two_pow_sub_one]
  cases decide (i < 8) <;> simp

/-- Of a stored value the whole mask reads what its lowest eight bits read. -/
lemma toNat_and_lowByte :
    (value &&& (mask &&& 0xFF).toUInt8).toNat = value.toNat &&& mask.toNat := by
  refine Nat.eq_of_testBit_eq fun i => ?_
  rw [UInt8.toNat_and, Nat.testBit_and, Nat.testBit_and, testBit_lowByte]
  by_cases h : i < 8
  · simp [h]
  · simp [testBit_toNat_of_le value (not_lt.mp h)]

/-- To a stored value the whole mask lets through what its lowest eight bits let through. -/
lemma toNat_write_lowByte :
    (stored &&& ~~~(mask &&& 0xFF).toUInt8 ||| value &&& (mask &&& 0xFF).toUInt8).toNat =
      Legacy.write mask value.toNat stored.toNat := by
  refine Nat.eq_of_testBit_eq fun i => ?_
  rw [Legacy.write, UInt8.toNat_or, UInt8.toNat_and, toNat_and_lowByte]
  rw [Nat.testBit_or, Nat.testBit_or, Nat.testBit_and, Nat.testBit_ldiff]
  by_cases h : i < 8
  · rw [testBit_toNat_not _ h, testBit_lowByte]
    simp [h]
  · simp [testBit_toNat_of_le stored (not_lt.mp h)]

end

/-! ### Fragments -/

namespace Snapshot

variable (s : Snapshot)

/-- The reference value that the commands of a draw leave. -/
def reference : UInt8 := .ofNat (s.stencilReference.getD 0)

/-- The commands of a draw set the reference value where the stencil test is enabled. -/
lemma referenceAfter_commands {P D : Type} (target : DrawTarget) (pipeline : P)
    (depthStencil : D) :
    referenceAfter (DrawConfig.of s target pipeline depthStencil).commands = s.reference := by
  rw [referenceAfter, DrawConfig.commands, reference]
  cases hreference : s.stencilReference <;> cases hscissor : s.scissorRect <;>
    simp [DrawConfig.of, hreference, hscissor, List.findSome?, DrawCommand.reference]

variable {s}

lemma toNat_reference (henabled : s.stencil.enabled) :
    s.reference.toNat = s.stencil.clampedReference := by
  rw [reference, stencilReference, if_pos henabled, Option.getD_some, UInt8.toNat_ofNat',
    StencilState.clampedReference]
  omega

variable (s)

/-- The compiled stencil test of the state. -/
def stencilTest : StencilTest := .of (StencilKey.of s.stencil)

variable {s}

lemma stencilTest_of_disabled (h : s.stencil.enabled = false) : s.stencilTest = .ignore :=
  if_neg (by simp [StencilKey.of, h])

lemma stencilTest_of_enabled (h : s.stencil.enabled) :
    s.stencilTest = ⟨.of (StencilKey.of s.stencil), .of (StencilKey.of s.stencil),
      s.stencil.readMask &&& 0xFF, s.stencil.writeMask &&& 0xFF⟩ := if_pos h

/-- Both faces are tested alike. -/
lemma face_stencilTest (side : Face) : s.stencilTest.face side =
    if s.stencil.enabled then .of (StencilKey.of s.stencil) else .ignore := by
  cases henabled : s.stencil.enabled with
  | false =>
    rw [stencilTest_of_disabled henabled]
    cases side <;> rfl
  | true =>
    rw [stencilTest_of_enabled henabled]
    cases side <;> rfl

variable (s)

/-- The compiled stencil test lets pass what the state lets pass. -/
lemma holds_stencilTest (side : Face) (stored : UInt8) :
    (s.stencilTest.face side).compare.holds (s.stencilTest.read s.reference).toNat
      (s.stencilTest.read stored).toNat = s.stencil.passes stored := by
  rw [face_stencilTest, StencilState.passes]
  cases henabled : s.stencil.enabled with
  | false => rfl
  | true =>
    have hread (value : UInt8) :
        (s.stencilTest.read value).toNat = value.toNat &&& s.stencil.readMask.toNat := by
      rw [stencilTest_of_enabled henabled]
      exact toNat_and_lowByte s.stencil.readMask value
    rw [hread, hread, toNat_reference henabled]
    exact Token.holds_compareFunction s.stencil.func _ _

/-- A compiled stencil operation leaves what the operation in the state leaves. -/
lemma update_stencilTest (side : Face) (stored : UInt8) :
    let face := s.stencilTest.face side
    s.stencilTest.update face.failOp s.reference stored =
        s.stencil.update s.stencil.failOp stored ∧
      s.stencilTest.update face.depthFailOp s.reference stored =
        s.stencil.update s.stencil.depthFailOp stored ∧
      s.stencilTest.update face.passOp s.reference stored =
        s.stencil.update s.stencil.passOp stored := by
  intro face
  have hface : face = _ := face_stencilTest side
  rw [hface]
  cases henabled : s.stencil.enabled with
  | false =>
    have hkeep : s.stencilTest.update .keep s.reference stored = stored := by
      rw [stencilTest_of_disabled henabled]
      simp [StencilTest.update, StencilTest.ignore, StencilOperation.apply]
    have hleft (token : UInt32) : s.stencil.update token stored = stored :=
      if_neg (by simp [henabled])
    rw [hleft, hleft, hleft]
    exact ⟨hkeep, hkeep, hkeep⟩
  | true =>
    have hupdate (token : UInt32) :
        s.stencilTest.update (Token.stencilOperation token) s.reference stored =
          s.stencil.update token stored := by
      rw [StencilState.update, if_pos henabled, stencilTest_of_enabled henabled,
        ← toNat_reference henabled, ← Token.toNat_apply_stencilOperation,
        ← toNat_write_lowByte, UInt8.ofNat_toNat]
      rfl
    exact ⟨hupdate _, hupdate _, hupdate _⟩

end Snapshot

/-- **Every fragment has the same outcome under the compiled state as under the legacy state.** The
compiled state is the one of the draw's depth-stencil key, and the reference value the one that its
commands leave. This is for all numbers in the state, known or not, both faces, and every stored and
incoming value. -/
theorem fragment_faithful {P D : Type} (s : Snapshot) (target : DrawTarget) (pipeline : P)
    (depthStencil : D) (side : Face) (incoming : α) (stored : Texel α) :
    let config := DrawConfig.of s target pipeline depthStencil
    (DepthStencilTest.of config.depthStencilKey).fragment side (referenceAfter config.commands)
      incoming stored = s.fragment incoming stored := by
  intro config
  set t := DepthStencilTest.of config.depthStencilKey
  obtain ⟨hfail, hdepthFail, hpass⟩ := s.update_stencilTest side stored.stencil
  have hstencil : t.stencil = s.stencilTest := rfl
  have hcompare : t.depthCompare =
      if s.depth.testEnabled then Token.compareFunction s.depth.compare else .always := rfl
  have hwrite : t.depthWriteEnabled = (s.depth.testEnabled && s.depth.writeEnabled) := rfl
  rw [DepthStencilTest.fragment, s.referenceAfter_commands, hstencil, s.holds_stencilTest, hfail,
    hdepthFail, hpass, hcompare, hwrite, Snapshot.fragment]
  cases htest : s.depth.testEnabled with
  | false => rfl
  | true =>
    rw [if_pos rfl, Token.holds_compareFunction]
    rfl

end RenderBridge
