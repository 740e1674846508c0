import LibcdioRs.Mmc
import LibcdioRs.Shared.Text

/-!
# INQUIRY

The hardware identifiers of a drive, and whether it is an MMC device at all.
-/

namespace LibcdioRs

open Rust
set_option autoImplicit false

inductive InquiryKind where
  | standard
  | vitalProductData (pageCode : UInt8)
  deriving DecidableEq

def Inquiry.allocLen : Nat := 255

def InquiryKind.cdb (kind : InquiryKind) : Cdb :=
  let cdb : Cdb := Cdb.default.set! 0 0x12
  let cdb : Cdb := match kind with
    | .standard => cdb
    | .vitalProductData pageCode => (cdb.set! 1 1).set! 2 pageCode
  cdb.setBe16 3 (.ofNat Inquiry.allocLen)

inductive MmcInquiryError where
  | os (error : MmcError)
  | invalidResponse (text : String)
  deriving DecidableEq

structure GetHardwareIdentifiersError where
  source : MmcInquiryError
  deriving DecidableEq

structure HardwareIdentifiers where
  product : String
  vendor : String
  revision : String
  deriving DecidableEq

/-- The peripheral device type of CD and DVD drives in the first byte of a response. -/
def Inquiry.isCdDvd (response : Bytes) : Exec Bool := do
  let b ← index response 0
  return b &&& 0b11111 == 0x05

variable {σ : Type}

namespace Mmc

def inquiry (m : Mmc σ) (kind : InquiryKind) : Act σ MmcInquiryError Bytes := do
  let buf : Bytes := List.replicate Inquiry.allocLen 0
  (m.runCommand (some .read) buf kind.cdb).mapError .os

def isMmcDevice (m : Mmc σ) : Act σ MmcInquiryError Bool := do
  let response ← m.inquiry .standard
  Act.lift (Inquiry.isCdDvd response)

def identifier (buf : Bytes) (first last : Nat) : Exec String := do
  let text ← slice buf first (last + 1)
  return trim (fromUtf8Lossy text)

def hardwareIdentifiers (m : Mmc σ) : Act σ GetHardwareIdentifiersError HardwareIdentifiers := do
  let buf ← (m.inquiry .standard).mapError .mk
  let b ← Act.lift (index buf 3)
  let responseDataFormat := b &&& 0b1111
  if responseDataFormat ≠ 2 then
    Act.fail ⟨.invalidResponse ("unsupported non-standard INQUIRY response format, " ++
      "got response data format of " ++ toString responseDataFormat.toNat)⟩
  else
    let vendor ← Act.lift (identifier buf 8 15)
    let product ← Act.lift (identifier buf 16 31)
    let revision ← Act.lift (identifier buf 32 35)
    return ⟨product, vendor, revision⟩

end Mmc

end LibcdioRs
