import RenderBridge.Number.Word
/-!
Handles that a host holds on buffers and vertex layouts: positive 64-bit numbers, issued in order
from `1`. The number `0` stands for no handle.
-/

set_option autoImplicit false

namespace RenderBridge

/-- A host's name for a buffer. -/
structure BufferHandle where
  raw : UInt64
  ne_zero : raw ≠ 0
deriving DecidableEq

/-- A host's name for a vertex layout. -/
structure LayoutHandle where
  raw : UInt64
  ne_zero : raw ≠ 0
deriving DecidableEq

namespace BufferHandle

/-- The handle with this number; none for `0`. -/
def ofRaw? (raw : UInt64) : Option BufferHandle := if h : raw ≠ 0 then some ⟨raw, h⟩ else none

/-- The `n`-th handle to be issued; none once the 64-bit numbers are used up. -/
def nth? (n : Nat) : Option BufferHandle := if n < Word.range then ofRaw? (UInt64.ofNat n) else none

end BufferHandle

namespace LayoutHandle

/-- The handle with this number; none for `0`. -/
def ofRaw? (raw : UInt64) : Option LayoutHandle := if h : raw ≠ 0 then some ⟨raw, h⟩ else none

/-- The `n`-th handle to be issued; none once the 64-bit numbers are used up. -/
def nth? (n : Nat) : Option LayoutHandle := if n < Word.range then ofRaw? (UInt64.ofNat n) else none

end LayoutHandle

end RenderBridge
