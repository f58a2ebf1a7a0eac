import EverTrace.L1Encoding.CanonicalParse
import EverTrace.Lib.Greedy
import Mathlib.Data.List.Sort
/-!
# Secret detection and redaction (`evertrace-capture/src/protect.rs`)

Before a payload is archived, nine detectors look for secrets in it: PEM
private keys, `Authorization: Bearer` headers, and seven kinds of
`name = value` assignments. Their candidates may overlap; `resolveOverlaps`
ranks them and keeps a set that does not, and `redact` replaces each kept
candidate by a token.

Positions are `Nat`; a candidate is the half-open range `[start, stop)`. The
`while let` loops of the detectors take a fuel of one more than the input
length; every turn moves the cursor forward, so it is never used up
(`detectLoop_fuel`).
-/
namespace EverTrace.L1.Protect
open EverTrace.Lib EverTrace.L1.Canonical

def detectorRevision : UInt32 := 1

def redactionRevision : UInt32 := 1

/-- `b"[REDACTED]"` -/
def redactionToken : Bytes := utf8 "[REDACTED]"

/-- mirrors evertrace-capture/src/protect.rs:22-30 -/
inductive SecretKind where
  | apiKey
  | token
  | credential
  | authorizationBearer
  | pemPrivateKey
  deriving DecidableEq, Repr

/-- mirrors evertrace-capture/src/protect.rs:33-41 -/
def SecretKind.asStr : SecretKind → String
  | .apiKey => "api_key"
  | .token => "token"
  | .credential => "credential"
  | .authorizationBearer => "authorization_bearer"
  | .pemPrivateKey => "pem_private_key"

/-- mirrors evertrace-capture/src/protect.rs:43-49 -/
def SecretKind.priority : SecretKind → Nat
  | .pemPrivateKey => 3
  | .authorizationBearer => 2
  | .apiKey | .token | .credential => 1

/-- mirrors evertrace-capture/src/protect.rs:306-311 -/
structure Candidate where
  start : Nat
  stop : Nat
  kind : SecretKind
  deriving DecidableEq, Repr

/-- mirrors evertrace-capture/src/protect.rs:52-58 -/
structure RedactionSpan where
  start : Nat
  stop : Nat
  kind : SecretKind
  deriving DecidableEq, Repr

/-! ## Searching -/

/-- `haystack.windows(n).position(p)` for `0 < n`. -/
def findWindow (p : Bytes → Bool) (n : Nat) : Bytes → Option Nat
  | [] => none
  | x :: rest =>
    if (x :: rest).length < n then none
    else if p ((x :: rest).take n) then some 0
    else (findWindow p n rest).map (· + 1)

def asciiLower (byte : UInt8) : UInt8 := if 65 ≤ byte && byte ≤ 90 then byte + 32 else byte

/-- mirrors evertrace-capture/src/protect.rs:491-495 -/
def findAsciiCaseInsensitive (haystack needle : Bytes) : Option Nat :=
  findWindow (fun window => window.map asciiLower = needle.map asciiLower) needle.length haystack

/-- mirrors evertrace-capture/src/protect.rs:497-501 -/
def findBytes (haystack needle : Bytes) : Option Nat :=
  findWindow (fun window => window = needle) needle.length haystack

/-- mirrors evertrace-capture/src/protect.rs:503-505 -/
def isNameByte (byte : UInt8) : Bool :=
  (48 ≤ byte && byte ≤ 57) || (65 ≤ byte && byte ≤ 90) || (97 ≤ byte && byte ≤ 122) || byte = 95

/-- `b' ' | b'\t'` -/
def isBlank (byte : UInt8) : Bool := byte = 0x20 || byte = 0x09

/-- `b'\r' | b'\n'` -/
def isLineEnd (byte : UInt8) : Bool := byte = 0x0d || byte = 0x0a

/-- `u8::is_ascii_whitespace` -/
def isAsciiWhitespace (byte : UInt8) : Bool := isBlank byte || isLineEnd byte || byte = 0x0c

/-- `while position < input.len() && p(input[position]) { position += 1 }` -/
def skipWhile (p : UInt8 → Bool) (input : Bytes) (position : Nat) : Nat :=
  position + ((input.drop position).takeWhile p).length

/-- The loop of the detectors: find the next marker from `cursor` on, run the body on it, and go on
from the cursor the body returns, or stop. -/
def detectLoop (find : Bytes → Option Nat) (body : Nat → Option Candidate × Option Nat) (input : Bytes) :
    Nat → Nat → List Candidate
  | 0, _ => []
  | fuel + 1, cursor =>
    match find (input.drop cursor) with
    | none => []
    | some relative =>
      match body (cursor + relative) with
      | (found, none) => found.toList
      | (found, some cursor') => found.toList ++ detectLoop find body input fuel cursor'

/-! ## The detectors -/

/-- One marker of an assignment at `start`.
mirrors evertrace-capture/src/protect.rs:335-375 -/
def assignmentAt (input name : Bytes) (kind : SecretKind) (start : Nat) : Option Candidate :=
  let cursor := start + name.length
  if (start > 0 && (input[start - 1]?).any isNameByte) || (input[cursor]?).any isNameByte then none
  else
    let value := skipWhile isBlank input cursor
    if !(input[value]?).any (fun byte => byte = 0x3d || byte = 0x3a) then none
    else
      let value := skipWhile isBlank input (value + 1)
      let quote := (input[value]?).filter (fun byte => byte = 0x27 || byte = 0x22)
      let value := if quote.isSome then value + 1 else value
      let stop := skipWhile (fun byte => match quote with
        | some quote => byte ≠ quote && !isLineEnd byte
        | none => !(isBlank byte || isLineEnd byte || byte = 0x2c || byte = 0x3b)) input value
      if stop - value ≥ 8 then some ⟨value, stop, kind⟩ else none

/-- mirrors evertrace-capture/src/protect.rs:331-377 -/
def detectAssignment (input name : Bytes) (kind : SecretKind) : List Candidate :=
  detectLoop (findAsciiCaseInsensitive · name)
    (fun start => (assignmentAt input name kind start, some (start + name.length))) input
    (input.length + 1) 0

/-- `b"authorization"` and `b"bearer"` -/
def authorizationName : Bytes := utf8 "authorization"

def bearerName : Bytes := utf8 "bearer"

/-- One `Authorization` marker at `start`.
mirrors evertrace-capture/src/protect.rs:384-422 -/
def bearerAt (input : Bytes) (start : Nat) : Option Candidate :=
  let cursor := start + authorizationName.length
  if start > 0 && (input[start - 1]?).any isNameByte then none
  else
    let position := skipWhile isBlank input cursor
    if input[position]? ≠ some 0x3a then none
    else
      let position := skipWhile isBlank input (position + 1)
      if position + bearerName.length > input.length
          || ((input.drop position).take bearerName.length).map asciiLower ≠ bearerName.map asciiLower then
        none
      else
        let position := position + bearerName.length
        if !(input[position]?).any isAsciiWhitespace then none
        else
          let position := skipWhile isBlank input position
          let stop := skipWhile (fun byte => !isAsciiWhitespace byte) input position
          if stop - position ≥ 8 then some ⟨position, stop, .authorizationBearer⟩ else none

/-- mirrors evertrace-capture/src/protect.rs:380-424 -/
def detectBearer (input : Bytes) : List Candidate :=
  detectLoop (findAsciiCaseInsensitive · authorizationName)
    (fun start => (bearerAt input start, some (start + authorizationName.length))) input
    (input.length + 1) 0

/-- `b"-----BEGIN "`, `b"PRIVATE KEY-----"` and `b"-----END "` -/
def pemBegin : Bytes := utf8 "-----BEGIN "

def pemPrivate : Bytes := utf8 "PRIVATE KEY-----"

def pemEndPrefixed : Bytes := utf8 "-----END "

def pemDashes : Bytes := utf8 "-----"

/-- One `-----BEGIN ` at `start`: without a private-key label the loop stops; without the matching
end marker it goes on after the begin marker.
mirrors evertrace-capture/src/protect.rs:431-452 -/
def pemAt (input : Bytes) (start : Nat) : Option Candidate × Option Nat :=
  let cursor := start + pemBegin.length
  match findBytes (input.drop cursor) pemPrivate with
  | none => (none, none)
  | some kindEnd =>
    let labelEnd := cursor + kindEnd + pemPrivate.length
    let label := (input.drop cursor).take (labelEnd - 5 - cursor)
    let endMarker := pemEndPrefixed ++ label ++ pemDashes
    match findBytes (input.drop labelEnd) endMarker with
    | some endRelative =>
      let stop := labelEnd + endRelative + endMarker.length
      (some ⟨start, stop, .pemPrivateKey⟩, some stop)
    | none => (none, some cursor)

/-- mirrors evertrace-capture/src/protect.rs:426-453 -/
def detectPem (input : Bytes) : List Candidate :=
  detectLoop (findBytes · pemBegin) (pemAt input) input (input.length + 1) 0

/-- The assignment names, in the order they are tried. -/
def assignmentNames : List (Bytes × SecretKind) :=
  [ (utf8 "api_key", .apiKey),
    (utf8 "apikey", .apiKey),
    (utf8 "access_token", .token),
    (utf8 "token", .token),
    (utf8 "password", .credential),
    (utf8 "credential", .credential),
    (utf8 "secret_key", .credential) ]

/-- mirrors evertrace-capture/src/protect.rs:313-329 -/
def detectCandidates (input : Bytes) : List Candidate :=
  detectPem input ++ detectBearer input ++
    assignmentNames.flatMap fun (name, kind) => detectAssignment input name kind

/-! ## Overlaps and redaction -/

/-- The order of the first sort: higher priority, then longer, then earlier. -/
def ranksBefore (left right : Candidate) : Bool :=
  right.kind.priority < left.kind.priority
    || (right.kind.priority = left.kind.priority
      && (right.stop - right.start < left.stop - left.start
        || (right.stop - right.start = left.stop - left.start && left.start ≤ right.start)))

/-- `!(candidate.end <= current.start || candidate.start >= current.end)` -/
def overlaps (candidate current : Candidate) : Bool :=
  !(candidate.stop ≤ current.start || candidate.start ≥ current.stop)

/-- mirrors evertrace-capture/src/protect.rs:455-475 -/
def resolveOverlaps (candidates : List Candidate) : List Candidate :=
  let ranked := candidates.insertionSort (fun left right => ranksBefore left right)
  let selected := select overlaps ranked
  selected.insertionSort (fun left right => left.start ≤ right.start)

/-- The loop of `redact` from `cursor` on. -/
def redactFrom (input : Bytes) : Nat → List RedactionSpan → Bytes
  | cursor, [] => input.drop cursor
  | cursor, span :: rest =>
    (input.drop cursor).take (span.start - cursor) ++ redactionToken ++ redactFrom input span.stop rest

/-- mirrors evertrace-capture/src/protect.rs:477-489 -/
def redact (input : Bytes) (spans : List RedactionSpan) : Bytes := redactFrom input 0 spans

/-- mirrors evertrace-capture/src/key.rs:19-22 -/
structure DeviceKey where
  generation : UInt64
  bytes : Digest

/-- mirrors evertrace-capture/src/protect.rs:74-83 -/
structure ProtectedPayload where
  protectedBytes : Bytes
  rawLength : Nat
  spans : List RedactionSpan
  detectorRevision : UInt32
  redactionRevision : UInt32
  keyGeneration : UInt64
  protectedSecretDigest : Option Digest

/-- mirrors evertrace-capture/src/protect.rs:145-151 -/
inductive ProtectError where
  | lengthOverflow
  | digest
  deriving DecidableEq, Repr

def Candidate.span (candidate : Candidate) : RedactionSpan :=
  ⟨candidate.start, candidate.stop, candidate.kind⟩

/-- The canonical value whose HMAC is the digest of the redacted secrets.
mirrors evertrace-capture/src/protect.rs:171-199 -/
def digestValue (input : Bytes) (spans : List RedactionSpan) : CanonicalValue :=
  .map
    [ ("raw_length", .integer (BitVec.ofNat 128 input.length)),
      ("spans", .sequence (spans.map fun span => .map
        [ ("kind", .string span.kind.asStr),
          ("start", .integer (BitVec.ofNat 128 span.start)),
          ("end", .integer (BitVec.ofNat 128 span.stop)),
          ("bytes", .bytes ((input.drop span.start).take (span.stop - span.start))) ])) ]

/-- The digest of the redacted secrets, when there are any.
mirrors evertrace-capture/src/protect.rs:168-209 -/
def secretDigest (M : HmacSha256) (input : Bytes) (key : DeviceKey) (spans : List RedactionSpan) :
    Except ProtectError (Option Digest) :=
  if spans.isEmpty then .ok none
  else
    match hmacSha256 M key.bytes.bytes "evertrace.protected_secret" redactionRevision
      (digestValue input spans) with
    | .ok digest => .ok (some digest)
    | .error _ => .error .digest

/-- mirrors evertrace-capture/src/protect.rs:153-219 -/
def protect (M : HmacSha256) (input : Bytes) (key : DeviceKey) : Except ProtectError ProtectedPayload := do
  ensure .lengthOverflow (input.length < 2 ^ 64)
  let spans := (resolveOverlaps (detectCandidates input)).map Candidate.span
  let protectedBytes := if spans.isEmpty then input else redact input spans
  let protectedSecretDigest ← secretDigest M input key spans
  return {
    protectedBytes := protectedBytes
    rawLength := input.length
    spans := spans
    detectorRevision := detectorRevision
    redactionRevision := redactionRevision
    keyGeneration := key.generation
    protectedSecretDigest := protectedSecretDigest }

/-! ## Where candidates lie -/

theorem findWindow_bound {p : Bytes → Bool} {n : Nat} : ∀ {haystack : Bytes} {r : Nat},
    findWindow p n haystack = some r → r + n ≤ haystack.length := by
  intro haystack
  induction haystack with
  | nil => intro r h; cases h
  | cons x rest ih =>
    intro r h
    unfold findWindow at h
    split at h
    · cases h
    · next hlen =>
      split at h
      · cases h
        omega
      · obtain ⟨r', hr', rfl⟩ := Option.map_eq_some_iff.mp h
        have := ih hr'
        simp only [List.length_cons]
        omega

theorem skipWhile_le {p : UInt8 → Bool} {input : Bytes} {position : Nat}
    (h : position < skipWhile p input position) : skipWhile p input position ≤ input.length := by
  have hle := (List.takeWhile_prefix p (l := input.drop position)).length_le
  rw [List.length_drop] at hle
  simp only [skipWhile] at h ⊢
  omega

/-- What a detector may return: a non-empty range inside the input. -/
def Candidate.Inside (input : Bytes) (c : Candidate) : Prop := c.start < c.stop ∧ c.stop ≤ input.length

/-- The two value scans end with the same test on the length of the value. -/
theorem inside_of_scan {p : UInt8 → Bool} {input : Bytes} {value : Nat} {kind : SecretKind} {c : Candidate}
    (h : (if skipWhile p input value - value ≥ 8 then some (Candidate.mk value (skipWhile p input value) kind)
      else none) = some c) : c.Inside input := by
  split at h
  · next hlen =>
    cases h
    exact ⟨by simp only; omega, skipWhile_le (by omega)⟩
  · cases h

theorem assignmentAt_inside {input name : Bytes} {kind : SecretKind} {start : Nat} {c : Candidate}
    (h : assignmentAt input name kind start = some c) : c.Inside input := by
  unfold assignmentAt at h
  dsimp only at h
  split at h
  · cases h
  · split at h
    · cases h
    · exact inside_of_scan h

theorem bearerAt_inside {input : Bytes} {start : Nat} {c : Candidate}
    (h : bearerAt input start = some c) : c.Inside input := by
  unfold bearerAt at h
  dsimp only at h
  split at h
  · cases h
  split at h
  · cases h
  split at h
  · cases h
  split at h
  · cases h
  exact inside_of_scan h

theorem pemAt_inside {input : Bytes} {start : Nat} {c : Candidate}
    (h : (pemAt input start).1 = some c) : c.Inside input := by
  unfold pemAt at h
  dsimp only at h
  split at h
  · cases h
  · next hprivate =>
    split at h
    · next hend =>
      have h₁ := findWindow_bound hprivate
      have h₂ := findWindow_bound hend
      have hb : pemBegin.length = 11 := rfl
      have hp : pemPrivate.length = 16 := rfl
      rw [List.length_drop] at h₁ h₂
      cases h
      refine ⟨?_, ?_⟩ <;> dsimp only <;> omega
    · cases h

theorem mem_detectLoop {find : Bytes → Option Nat} {body : Nat → Option Candidate × Option Nat}
    {input : Bytes} {c : Candidate} : ∀ {fuel cursor : Nat},
    c ∈ detectLoop find body input fuel cursor → ∃ start, (body start).1 = some c := by
  intro fuel
  induction fuel with
  | zero => intro cursor h; cases h
  | succ fuel ih =>
    intro cursor h
    unfold detectLoop at h
    split at h
    · cases h
    · split at h
      · next hbody => exact ⟨_, by rw [hbody]; exact Option.mem_toList.mp h⟩
      · next hbody =>
        rcases List.mem_append.mp h with h | h
        · exact ⟨_, by rw [hbody]; exact Option.mem_toList.mp h⟩
        · exact ih h

/-- The fuel is never used up: any two amounts that reach past the end of the input agree. -/
theorem detectLoop_fuel {find : Bytes → Option Nat} {body : Nat → Option Candidate × Option Nat}
    {input : Bytes} (hfind : ∀ {haystack r}, find haystack = some r → r < haystack.length)
    (hbody : ∀ {start cursor}, (body start).2 = some cursor → start < cursor) :
    ∀ {fuel fuel' cursor : Nat}, input.length < cursor + fuel → input.length < cursor + fuel' →
      detectLoop find body input fuel cursor = detectLoop find body input fuel' cursor := by
  have hdone : ∀ {fuel cursor}, input.length ≤ cursor → detectLoop find body input fuel cursor = [] := by
    intro fuel cursor hcursor
    cases fuel with
    | zero => rfl
    | succ fuel =>
      unfold detectLoop
      cases hf : find (input.drop cursor) with
      | none => rfl
      | some r =>
        have := hfind hf
        rw [List.length_drop] at this
        omega
  intro fuel
  induction fuel with
  | zero => intro fuel' cursor h _; rw [hdone (by omega), hdone (by omega)]
  | succ fuel ih =>
    intro fuel' cursor h h'
    cases fuel' with
    | zero => rw [hdone (by omega), hdone (by omega)]
    | succ fuel' =>
      unfold detectLoop
      cases hf : find (input.drop cursor) with
      | none => rfl
      | some r =>
        dsimp only
        cases hb : body (cursor + r) with
        | mk found next =>
          cases next with
          | none => rfl
          | some cursor' =>
            have hlt : cursor + r < cursor' := hbody (by rw [hb])
            dsimp only
            rw [ih (by omega) (show input.length < cursor' + fuel' by omega)]

theorem findWindow_lt {p : Bytes → Bool} {n : Nat} (hn : 0 < n) {haystack : Bytes} {r : Nat}
    (h : findWindow p n haystack = some r) : r < haystack.length := by
  have := findWindow_bound h
  omega

theorem detectPem_fuel {input : Bytes} {fuel : Nat} (h : input.length < fuel) :
    detectLoop (findBytes · pemBegin) (pemAt input) input fuel 0 = detectPem input := by
  refine detectLoop_fuel (findWindow_lt (by decide)) (fun {start cursor} hnext => ?_) (by omega) (by omega)
  have hb : pemBegin.length = 11 := rfl
  unfold pemAt at hnext
  dsimp only at hnext
  split at hnext
  · cases hnext
  · split at hnext <;> cases hnext <;> omega

theorem detectBearer_fuel {input : Bytes} {fuel : Nat} (h : input.length < fuel) :
    detectLoop (findAsciiCaseInsensitive · authorizationName)
      (fun start => (bearerAt input start, some (start + authorizationName.length))) input fuel 0 =
    detectBearer input := by
  refine detectLoop_fuel (findWindow_lt (by decide)) (fun {start cursor} hnext => ?_) (by omega) (by omega)
  have ha : authorizationName.length = 13 := rfl
  cases hnext
  omega

theorem detectAssignment_fuel {input name : Bytes} {kind : SecretKind} {fuel : Nat}
    (hname : 0 < name.length) (h : input.length < fuel) :
    detectLoop (findAsciiCaseInsensitive · name)
      (fun start => (assignmentAt input name kind start, some (start + name.length))) input fuel 0 =
    detectAssignment input name kind := by
  refine detectLoop_fuel (findWindow_lt hname) (fun {start cursor} hnext => ?_) (by omega) (by omega)
  cases hnext
  omega

/-- Every candidate is a non-empty range inside the input. -/
theorem detectCandidates_inside {input : Bytes} {c : Candidate} (h : c ∈ detectCandidates input) :
    c.Inside input := by
  unfold detectCandidates at h
  rcases List.mem_append.mp h with h | h
  · rcases List.mem_append.mp h with h | h
    · obtain ⟨start, hc⟩ := mem_detectLoop h
      exact pemAt_inside hc
    · obtain ⟨start, hc⟩ := mem_detectLoop h
      exact bearerAt_inside hc
  · obtain ⟨⟨name, kind⟩, -, h⟩ := List.mem_flatMap.mp h
    obtain ⟨start, hc⟩ := mem_detectLoop h
    exact assignmentAt_inside hc

/-! ## What the selection keeps -/

theorem overlaps_iff {a b : Candidate} : overlaps a b = true ↔ b.start < a.stop ∧ a.start < b.stop := by
  simp [overlaps]

theorem overlaps_comm (a b : Candidate) : overlaps a b = overlaps b a := by
  rw [Bool.eq_iff_iff, overlaps_iff, overlaps_iff]
  exact and_comm

theorem ranksBefore_iff {a b : Candidate} : ranksBefore a b = true ↔
    b.kind.priority < a.kind.priority ∨ (b.kind.priority = a.kind.priority ∧
      (b.stop - b.start < a.stop - a.start ∨
        (b.stop - b.start = a.stop - a.start ∧ a.start ≤ b.start))) := by
  simp [ranksBefore]

theorem ranksBefore_refl (a : Candidate) : ranksBefore a a = true := by
  simp [ranksBefore_iff]

theorem ranksBefore_trans (a b c : Candidate) (hab : ranksBefore a b = true)
    (hbc : ranksBefore b c = true) : ranksBefore a c = true := by
  rw [ranksBefore_iff] at *
  omega

theorem ranksBefore_total (a b : Candidate) : ranksBefore a b = true ∨ ranksBefore b a = true := by
  rw [ranksBefore_iff, ranksBefore_iff]
  omega

def ranked (candidates : List Candidate) : List Candidate :=
  candidates.insertionSort (fun left right => ranksBefore left right)

theorem ranked_perm (candidates : List Candidate) : (ranked candidates).Perm candidates :=
  List.perm_insertionSort _ candidates

theorem ranked_sorted (candidates : List Candidate) :
    (ranked candidates).Pairwise (fun a b => ranksBefore a b = true) := by
  have : Std.Total (fun a b => ranksBefore a b = true) := ⟨ranksBefore_total⟩
  have : IsTrans Candidate (fun a b => ranksBefore a b = true) := ⟨ranksBefore_trans⟩
  exact List.pairwise_insertionSort _ candidates

/-- `resolve_overlaps` keeps what the greedy selection keeps, in the order of the input. -/
theorem resolveOverlaps_perm (candidates : List Candidate) :
    (resolveOverlaps candidates).Perm (select overlaps (ranked candidates)) :=
  List.perm_insertionSort _ _

theorem mem_resolveOverlaps {candidates : List Candidate} {c : Candidate} :
    c ∈ resolveOverlaps candidates ↔ c ∈ select overlaps (ranked candidates) :=
  (resolveOverlaps_perm candidates).mem_iff

/-- The kept candidates are a kernel of the candidates under rank and overlap. -/
theorem resolveOverlaps_kernel (candidates : List Candidate) :
    Kernel ranksBefore overlaps candidates (resolveOverlaps candidates) := by
  obtain ⟨hsub, hind, hdom⟩ := select_kernel overlaps_comm (ranked_sorted candidates)
  refine ⟨fun k hk => ?_, fun a ha b hb => ?_, fun a ha hnot => ?_⟩
  · exact (ranked_perm candidates).mem_iff.mp (hsub k (mem_resolveOverlaps.mp hk))
  · exact hind a (mem_resolveOverlaps.mp ha) b (mem_resolveOverlaps.mp hb)
  · obtain ⟨k, hk, h⟩ := hdom a ((ranked_perm candidates).mem_iff.mpr ha)
      fun h => hnot (mem_resolveOverlaps.mpr h)
    exact ⟨k, mem_resolveOverlaps.mpr hk, h⟩

theorem resolveOverlaps_disjoint {candidates : List Candidate}
    (hne : ∀ c ∈ candidates, c.start < c.stop) :
    (resolveOverlaps candidates).Pairwise (fun a b => a.stop ≤ b.start) := by
  have hpair : (resolveOverlaps candidates).Pairwise (fun a b => overlaps a b = false) :=
    (resolveOverlaps_perm candidates).symm.pairwise (select_independent overlaps_comm _).2
      fun h => by rw [overlaps_comm]; exact h
  have hsorted : (resolveOverlaps candidates).Pairwise (fun a b => a.start ≤ b.start) := by
    have : Std.Total (fun a b : Candidate => a.start ≤ b.start) := ⟨fun a b => Nat.le_total _ _⟩
    have : IsTrans Candidate (fun a b => a.start ≤ b.start) := ⟨fun a b c => Nat.le_trans⟩
    exact List.pairwise_insertionSort _ _
  refine (hpair.and hsorted).imp_of_mem fun {a b} ha hb h => ?_
  obtain ⟨hover, hstart⟩ := h
  have hb' := hne b ((resolveOverlaps_kernel candidates).subset b hb)
  rw [← Bool.not_eq_true, overlaps_iff] at hover
  omega

/-! ## What `redact` copies -/

/-- A byte of the redacted payload: a byte of the input, by its position, or of a token. -/
inductive Mark where
  | copied (position : Nat)
  | token (byte : UInt8)

def Mark.byte (input : Bytes) : Mark → UInt8
  | .copied position => input.getD position 0
  | .token byte => byte

/-- The bytes of `redactFrom`, marked with where they come from, for an input of length `n`. -/
def marksFrom (n : Nat) : Nat → List RedactionSpan → List Mark
  | cursor, [] => (List.range' cursor (n - cursor)).map .copied
  | cursor, span :: rest =>
    (List.range' cursor (span.start - cursor)).map .copied ++ redactionToken.map .token ++
      marksFrom n span.stop rest

theorem drop_take_eq_marks {input : Bytes} {c k : Nat} (h : c + k ≤ input.length) :
    (input.drop c).take k = ((List.range' c k).map Mark.copied).map (Mark.byte input) := by
  refine List.ext_getElem ?_ fun i h₁ h₂ => ?_
  · simp only [List.length_take, List.length_drop, List.length_map, List.length_range']
    omega
  · simp only [List.length_map, List.length_range'] at h₂
    simp [Mark.byte, List.getD_eq_getElem?_getD]
    rw [List.getElem?_eq_getElem (by omega)]
    rfl

/-- The spans lie inside the input, disjoint and in order from `cursor` on. -/
def SpansFrom (n : Nat) : Nat → List RedactionSpan → Prop
  | cursor, [] => cursor ≤ n
  | cursor, span :: rest => cursor ≤ span.start ∧ span.start < span.stop ∧ span.stop ≤ n ∧
      SpansFrom n span.stop rest

theorem redactFrom_marks {input : Bytes} : ∀ {spans : List RedactionSpan} {cursor : Nat},
    SpansFrom input.length cursor spans →
      redactFrom input cursor spans = (marksFrom input.length cursor spans).map (Mark.byte input) := by
  intro spans
  induction spans with
  | nil =>
    intro cursor h
    simp only [SpansFrom] at h
    rw [redactFrom, marksFrom, ← drop_take_eq_marks (by omega), List.take_of_length_le (by simp)]
  | cons span rest ih =>
    intro cursor h
    obtain ⟨h₁, h₂, h₃, hrest⟩ := h
    have htoken : redactionToken = (redactionToken.map Mark.token).map (Mark.byte input) := by
      rw [List.map_map]
      exact (List.map_id _).symm
    rw [redactFrom, marksFrom, ih hrest, drop_take_eq_marks (by omega), List.map_append, List.map_append,
      ← htoken]

/-- `redact` copies exactly the positions outside every span. -/
theorem copied_mem_marksFrom {n i : Nat} : ∀ {spans : List RedactionSpan} {cursor : Nat},
    SpansFrom n cursor spans → (Mark.copied i ∈ marksFrom n cursor spans ↔
      cursor ≤ i ∧ i < n ∧ ∀ span ∈ spans, ¬ (span.start ≤ i ∧ i < span.stop)) := by
  intro spans
  induction spans with
  | nil =>
    intro cursor h
    simp only [SpansFrom] at h
    simp [marksFrom, List.mem_range'_1]
    omega
  | cons span rest ih =>
    intro cursor h
    obtain ⟨h₁, h₂, h₃, hrest⟩ := h
    have hlater : ∀ {spans : List RedactionSpan} {cursor : Nat}, SpansFrom n cursor spans →
        ∀ s ∈ spans, cursor ≤ s.start := by
      intro spans
      induction spans with
      | nil => intro _ _ s hs; cases hs
      | cons t ts iht =>
        intro cursor ht s hs
        obtain ⟨ht₁, ht₂, -, hts⟩ := ht
        rcases List.mem_cons.mp hs with rfl | hs
        · exact ht₁
        · have := iht hts s hs
          omega
    have hmem : Mark.copied i ∈ marksFrom n cursor (span :: rest) ↔
        (cursor ≤ i ∧ i < span.start) ∨ Mark.copied i ∈ marksFrom n span.stop rest := by
      have hstart : cursor + (span.start - cursor) = span.start := by omega
      simp [marksFrom, List.mem_range'_1, hstart]
    rw [hmem, ih hrest, List.forall_mem_cons]
    refine ⟨fun h => ?_, fun ⟨hc, hn, hspan, hall⟩ => ?_⟩
    · rcases h with ⟨hc, hs⟩ | ⟨hc, hn, hall⟩
      · refine ⟨hc, by omega, by omega, fun s hs' => ?_⟩
        have := hlater hrest s hs'
        omega
      · exact ⟨by omega, hn, by omega, hall⟩
    · by_cases hi : i < span.start
      · exact .inl ⟨hc, hi⟩
      · exact .inr ⟨by omega, hn, hall⟩

/-! ## `protect` succeeds -/

/-- The spans of the kept candidates lie inside the input, disjoint and in order. -/
theorem spansFrom_of_disjoint {n : Nat} : ∀ {l : List Candidate} {cursor : Nat}, cursor ≤ n →
    (∀ c ∈ l, cursor ≤ c.start ∧ c.start < c.stop ∧ c.stop ≤ n) →
    l.Pairwise (fun a b => a.stop ≤ b.start) → SpansFrom n cursor (l.map Candidate.span) := by
  intro l
  induction l with
  | nil => exact fun h _ _ => h
  | cons c l ih =>
    intro cursor _ hin hpair
    obtain ⟨h₁, h₂, h₃⟩ := hin c List.mem_cons_self
    obtain ⟨hlater, hpair⟩ := List.pairwise_cons.mp hpair
    refine ⟨h₁, h₂, h₃, ih h₃ (fun d hd => ⟨hlater d hd, ?_⟩) hpair⟩
    exact (hin d (List.mem_cons_of_mem c hd)).2

theorem spansFrom_resolved (input : Bytes) :
    SpansFrom input.length 0 ((resolveOverlaps (detectCandidates input)).map Candidate.span) := by
  refine spansFrom_of_disjoint (Nat.zero_le _) (fun c hc => ⟨Nat.zero_le _, ?_⟩)
    (resolveOverlaps_disjoint fun c hc => (detectCandidates_inside hc).1)
  exact detectCandidates_inside ((resolveOverlaps_kernel _).subset c hc)

theorem spansFrom_length {n : Nat} : ∀ {spans : List RedactionSpan} {cursor : Nat},
    SpansFrom n cursor spans → cursor + spans.length ≤ n := by
  intro spans
  induction spans with
  | nil => exact fun h => h
  | cons span rest ih =>
    intro cursor h
    obtain ⟨h₁, h₂, -, hrest⟩ := h
    have := ih hrest
    rw [List.length_cons]
    omega

theorem lengthsFit_map {entries : List (String × CanonicalValue)} (keys : List String)
    (hkeys : entries.map Prod.fst = keys) (hcount : keys.length < 2 ^ 64)
    (hfit : ∀ key ∈ keys, (utf8 key).length < 2 ^ 64) : lengthsFit (.map entries) := by
  subst hkeys
  rw [List.length_map] at hcount
  exact ⟨hcount, fun e he => hfit e.1 (List.mem_map_of_mem he)⟩

/-- The spans and the payload fit in memory, so the digest value encodes. -/
theorem digestValue_inMemory {input : Bytes} {spans : List RedactionSpan} (hlen : input.length < 2 ^ 64)
    (hspans : spans.length < 2 ^ 64) : InMemory (digestValue input spans) := by
  have hspan : ∀ span : RedactionSpan, InMemory (.map
      [ ("kind", .string span.kind.asStr),
        ("start", .integer (BitVec.ofNat 128 span.start)),
        ("end", .integer (BitVec.ofNat 128 span.stop)),
        ("bytes", .bytes ((input.drop span.start).take (span.stop - span.start))) ]) := by
    intro span v hocc
    cases hocc with
    | self => exact lengthsFit_map ["kind", "start", "end", "bytes"] rfl (by decide) (by decide)
    | entry he h =>
      simp only [List.mem_cons, List.not_mem_nil, or_false] at he
      rcases he with rfl | rfl | rfl | rfl
      · cases h with
        | self => cases hk : span.kind <;> simp only [lengthsFit] <;> decide
      · cases h with
        | self => trivial
      · cases h with
        | self => trivial
      · cases h with
        | self =>
          simp only [lengthsFit, List.length_take, List.length_drop]
          omega
  intro v hocc
  cases hocc with
  | self => exact lengthsFit_map ["raw_length", "spans"] rfl (by decide) (by decide)
  | entry he h =>
    simp only [List.mem_cons, List.not_mem_nil, or_false] at he
    rcases he with rfl | rfl
    · cases h with
      | self => trivial
    · cases h with
      | self => simpa [lengthsFit] using hspans
      | item hx h =>
        obtain ⟨span, -, rfl⟩ := List.mem_map.mp hx
        exact hspan span v h

theorem digestValue_keys (input : Bytes) (spans : List RedactionSpan) :
    ¬ HasDuplicateKey (digestValue input spans) := by
  have hleaf : ∀ {v : CanonicalValue}, (∀ es, ¬ Occurs (.map es) v) → ¬ HasDuplicateKey v :=
    fun h ⟨es, hocc, _⟩ => h es hocc
  rw [digestValue, hasDuplicateKey_map]
  refine not_or.mpr ⟨not_not.mpr (show ["raw_length", "spans"].Nodup by decide), fun ⟨e, he, hdup⟩ => ?_⟩
  simp only [List.mem_cons, List.not_mem_nil, or_false] at he
  rcases he with rfl | rfl
  · exact hleaf (fun es h => by cases h) hdup
  · obtain ⟨x, hx, hdup⟩ := hasDuplicateKey_sequence.mp hdup
    obtain ⟨span, -, rfl⟩ := List.mem_map.mp hx
    rcases hasDuplicateKey_map.mp hdup with hkeys | ⟨e, he, hdup⟩
    · exact hkeys (show ["kind", "start", "end", "bytes"].Nodup by decide)
    · simp only [List.mem_cons, List.not_mem_nil, or_false] at he
      rcases he with rfl | rfl | rfl | rfl <;> exact hleaf (fun es h => by cases h) hdup

theorem secretDigest_ok (M : HmacSha256) (input : Bytes) (key : DeviceKey) (spans : List RedactionSpan)
    (hlen : input.length < 2 ^ 64) (hspans : spans.length < 2 ^ 64) :
    ∃ digest, secretDigest M input key spans = .ok digest := by
  unfold secretDigest
  split
  · exact ⟨_, rfl⟩
  · obtain ⟨body, hbody⟩ : ∃ body, encodeValue (digestValue input spans) = .ok body := by
      rcases encodeValue_duplicate _ (digestValue_inMemory hlen hspans) with ⟨hdup, -⟩ | ⟨-, h⟩
      · exact absurd hdup (digestValue_keys input spans)
      · exact h
    have htag : (utf8 "evertrace.protected_secret").length < 2 ^ 64 := by decide
    have henc : encode "evertrace.protected_secret" redactionRevision (digestValue input spans) = .ok
        (formatMagic ++ beBytes 8 (utf8 "evertrace.protected_secret").length ++
          utf8 "evertrace.protected_secret" ++ be32 redactionRevision ++ body) := by
      have hne : decide (utf8 "evertrace.protected_secret" ≠ []) = true := by decide
      rw [encode, hbody, pushLen_ok.mpr ⟨htag, rfl⟩, hne]
      rfl
    rw [hmacSha256, henc]
    exact ⟨_, rfl⟩

/-- **`protect` succeeds on every slice**, and its spans are those of the resolved candidates. -/
theorem protect_ok (M : HmacSha256) (input : Bytes) (key : DeviceKey) (hlen : input.length < 2 ^ 64) :
    ∃ payload, protect M input key = .ok payload ∧
      payload.spans = (resolveOverlaps (detectCandidates input)).map Candidate.span ∧
      payload.protectedBytes = (marksFrom input.length 0 payload.spans).map (Mark.byte input) := by
  have hspans := spansFrom_resolved input
  have hcount := spansFrom_length hspans
  obtain ⟨digest, hdigest⟩ := secretDigest_ok M input key
    ((resolveOverlaps (detectCandidates input)).map Candidate.span) hlen (by omega)
  refine ⟨_, by rw [protect, decide_eq_true hlen]; dsimp only; rw [hdigest]; rfl, rfl, ?_⟩
  dsimp only
  split
  · next hempty =>
    rw [List.isEmpty_iff.mp hempty, ← redactFrom_marks (Nat.zero_le _)]
    rfl
  · exact redactFrom_marks hspans

end EverTrace.L1.Protect
