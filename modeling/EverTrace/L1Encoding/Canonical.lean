import EverTrace.Lib.Bytes
import EverTrace.Lib.Guard
import EverTrace.Lib.KeySort
import EverTrace.L1Encoding.Digest
/-!
# Canonical values (`evertrace-domain/src/canonical.rs`)

Content ids, fingerprints and HMAC tags are digests of one byte encoding of a
tree of values. Every node starts with a tag byte; strings, byte strings,
sequences and maps carry a `u64` length; map entries are written in the byte
order of their keys, and a map that holds a key twice is refused.
The encoder is total on values in memory but for duplicate keys; what its
output determines is proved in `CanonicalParse`.
-/
namespace EverTrace.L1.Canonical
open EverTrace.Lib

/-- `b"ETC1"` -/
def formatMagic : Bytes := [0x45, 0x54, 0x43, 0x31]

/-- mirrors evertrace-domain/src/canonical.rs:7-16; an `i128` is its 128 bits -/
inductive CanonicalValue where
  | null
  | bool (boolean : Bool)
  | integer (integer : BitVec 128)
  | string (string : String)
  | bytes (bytes : Bytes)
  | sequence (items : List CanonicalValue)
  | map (entries : List (String × CanonicalValue))

/-- mirrors evertrace-domain/src/canonical.rs:18-26 -/
inductive CanonicalError where
  | emptySchemaTag
  | duplicateMapKey
  | lengthOverflow
  deriving DecidableEq, Repr

/-- mirrors evertrace-domain/src/canonical.rs:115-119 -/
def pushLen (length : Nat) : Except CanonicalError Bytes := do
  ensure .lengthOverflow (length < 2 ^ 64)
  return beBytes 8 length

/-- The last loop of the map case: each key behind its length, then its encoded value. -/
def putEntries : List (String × Except CanonicalError Bytes) → Except CanonicalError Bytes
  | [] => return []
  | (key, value) :: rest => do
    let length ← pushLen (utf8 key).length
    let value ← value
    let rest ← putEntries rest
    return length ++ utf8 key ++ value ++ rest

/-- The map case after the tag byte: length, sort by key bytes, duplicate check, entries. -/
def putMap (entries : List (String × Except CanonicalError Bytes)) : Except CanonicalError Bytes := do
  let length ← pushLen entries.length
  let sorted := sortByKey (fun entry => utf8 entry.1) entries
  ensure .duplicateMapKey (!adjacentDup (fun entry => entry.1) sorted)
  let body ← putEntries sorted
  return length ++ body

mutual

/-- mirrors evertrace-domain/src/canonical.rs:67-113 -/
def encodeValue : CanonicalValue → Except CanonicalError Bytes
  | .null => return [0x4e]
  | .bool boolean => return [0x42, if boolean then 1 else 0]
  | .integer integer => return 0x49 :: beBytes 16 integer.toNat
  | .string string => do
    let length ← pushLen (utf8 string).length
    return 0x53 :: (length ++ utf8 string)
  | .bytes bytes => do
    let length ← pushLen bytes.length
    return 0x59 :: (length ++ bytes)
  | .sequence items => do
    let length ← pushLen items.length
    let body ← encodeItems items
    return 0x51 :: (length ++ body)
  | .map entries => do
    let body ← putMap (encodeEntries entries)
    return 0x4d :: body

/-- The loop of the sequence case. -/
def encodeItems : List CanonicalValue → Except CanonicalError Bytes
  | [] => return []
  | item :: items => do
    let head ← encodeValue item
    let rest ← encodeItems items
    return head ++ rest

/-- The entries of a map, each with the encoding of its value, in the order of the input. -/
def encodeEntries : List (String × CanonicalValue) → List (String × Except CanonicalError Bytes)
  | [] => []
  | (key, value) :: entries => (key, encodeValue value) :: encodeEntries entries

end

/-- mirrors evertrace-domain/src/canonical.rs:28-43 -/
def encode (schemaTag : String) (schemaVersion : UInt32) (value : CanonicalValue) :
    Except CanonicalError Bytes := do
  ensure .emptySchemaTag (utf8 schemaTag ≠ [])
  let length ← pushLen (utf8 schemaTag).length
  let body ← encodeValue value
  return formatMagic ++ length ++ utf8 schemaTag ++ be32 schemaVersion ++ body

/-- mirrors evertrace-domain/src/canonical.rs:45-52 -/
def sha256 (H : Sha256) (schemaTag : String) (schemaVersion : UInt32) (value : CanonicalValue) :
    Except CanonicalError Digest := do
  let encoded ← encode schemaTag schemaVersion value
  return H.hash encoded

/-- mirrors evertrace-domain/src/canonical.rs:54-65 -/
def hmacSha256 (M : HmacSha256) (key : Bytes) (schemaTag : String) (schemaVersion : UInt32)
    (value : CanonicalValue) : Except CanonicalError Digest := do
  let encoded ← encode schemaTag schemaVersion value
  return ⟨M.mac key encoded, M.mac_length key encoded⟩

end EverTrace.L1.Canonical
