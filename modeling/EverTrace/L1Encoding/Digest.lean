import EverTrace.Lib.Bytes
/-!
# Digests

SHA-256 and HMAC-SHA-256 are parameters of the development: any function into
32 bytes. Nothing below depends on collision resistance.
-/
namespace EverTrace.L1
open EverTrace.Lib

/-- SHA-256 as the code uses it: bytes in, 32 bytes out. -/
structure Sha256 where
  digest : Bytes → Bytes
  digest_length : ∀ b, (digest b).length = 32

/-- `[u8; 32]` -/
structure Digest where
  bytes : Bytes
  length_eq : bytes.length = 32
  deriving DecidableEq

theorem length_zeros : (List.replicate 32 (0 : UInt8)).length = 32 := rfl
theorem length_sevens : (List.replicate 32 (7 : UInt8)).length = 32 := rfl

/-- A hash that tells nothing apart. -/
def zeroSha : Sha256 := ⟨fun _ => List.replicate 32 0, fun _ => rfl⟩

/-- `Sha256::digest(bytes).into()` -/
def Sha256.hash (H : Sha256) (b : Bytes) : Digest := ⟨H.digest b, H.digest_length b⟩

/-- HMAC-SHA-256 as the code uses it: key and message in, 32 bytes out. -/
structure HmacSha256 where
  mac : Bytes → Bytes → Bytes
  mac_length : ∀ key message, (mac key message).length = 32

end EverTrace.L1
