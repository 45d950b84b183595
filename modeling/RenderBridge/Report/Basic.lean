import RenderBridge.Bytes
import RenderBridge.Number.Single
import RenderBridge.Text.Hex
/-!
Reports: values of the library as trees of named fields, for logs and diagnosis.

Numbers in single precision are written as the eight hexadecimal digits of their bits, and bytes as
two digits each.
-/

set_option autoImplicit false

namespace RenderBridge

/-- A tree of named fields. -/
inductive Report
  | absent
  | flag (value : Bool)
  | number (value : Int)
  | text (value : String)
  | row (items : List Report)
  | record (fields : List (String × Report))

namespace Report

def nat (n : Nat) : Report := number n

def word (w : UInt32) : Report := number w.toNat

def list {α : Type} (write : α → Report) (items : List α) : Report := row (items.map write)

def option {α : Type} (write : α → Report) : Option α → Report
  | none => absent
  | some value => write value

def pair (p : Nat × Nat) : Report := row [nat p.1, nat p.2]

/-- A single by its bits. -/
def single (x : Single) : Report := text (if x.isNaN then "nan" else Hex.digits 8 x.bits.toNat)

/-- The double equal to a single, by its bits. -/
def double (x : Single) : Report :=
  text (if x.isNaN then "nan" else Hex.digits 16 x.widen.toNat)

/-- A digest, by all its digits. -/
def digest (n : UInt64) : Report := text (Hex.digits 16 n.toNat)

def hexDigit (n : Nat) : Char :=
  if n < 10 then Char.ofNat ('0'.toNat + n) else Char.ofNat ('a'.toNat + n - 10)

/-- Two hexadecimal digits for each byte. -/
def bytes (bs : Bytes) : Report :=
  text <| bs.foldl (fun s b => (s.push (hexDigit (b.toNat / 16))).push (hexDigit (b.toNat % 16))) ""

end Report

end RenderBridge
