import LibcdioRs.Mmc

/-!
# READ DISC INFORMATION

The read whose first answer says how long the data are, as `read_toc` and
`read_disc_information` both do it, and the query for an erasable disc.
-/

namespace LibcdioRs

open Rust
set_option autoImplicit false

inductive DiscInfoKind where
  | standard
  | trackResources
  | powResources
  deriving DecidableEq

def DiscInfoKind.code : DiscInfoKind → UInt8
  | standard => 0b000
  | trackResources => 0b001
  | powResources => 0b010

def DiscInfoKind.cdb (kind : DiscInfoKind) : Cdb :=
  (Cdb.default.set! 0 0x51).set! 1 (kind.code &&& 0b111)

inductive MmcReadDiscInfoError where
  | os (error : MmcError)
  | invalidResponse (text : String)
  deriving DecidableEq

variable {σ : Type}

namespace Mmc

def readDiscInformation (m : Mmc σ) (kind : DiscInfoKind) : Act σ MmcReadDiscInfoError Bytes := do
  let buf : Bytes := List.replicate 64 0
  let cdb := kind.cdb.setAllocationLength buf.length
  let buf ← (m.runCommand (some .read) buf cdb).mapError .os
  let len ← Act.lift (lengthPrefix "initial buffer length is greater than two bytes" buf)
  let dataLength := len.toNat + 2
  if buf.length < dataLength then
    let buf := resize buf dataLength 0
    let cdb := cdb.setAllocationLength buf.length
    let buf ← (m.runCommand (some .read) buf cdb).mapError .os
    return buf.take dataLength
  else
    return buf.take dataLength

def isDiscErasable (m : Mmc σ) : Act σ MmcReadDiscInfoError Bool := do
  let data ← m.readDiscInformation .standard
  let d2 ← Act.lift (index data 2)
  return masked d2 4

end Mmc

end LibcdioRs
