import EverTrace.L1Encoding.Frame
/-!
# `encode_frame` against `scan_frames`

`Accepted r` is what `encode_frame` asks of a record and `frameBytes H r` the
bytes it then writes (`encodeFrame_ok`). The head of the scan decodes a frame
exactly when those bytes stand at the head of the input (`scanFrame_some`),
and reports a torn tail on every proper prefix of them (`scanFrame_torn`).

Results:
* `scanFrames_encode`: a sequence of encoded frames followed by any proper
  prefix of one more frame is read back as that sequence; only a non-empty
  prefix is reported as a torn tail.
* `encode_scanFrames`: whatever the scan accepts is the concatenation of the
  encodings of the records it returns, followed by the unread tail.
-/
namespace EverTrace.L1.Frame
open EverTrace.Lib

/-! ## What the encoder writes -/

/-- What `encode_frame` asks of a record: `validate_record`, and a reference count in a `u16`. -/
structure Accepted (r : SpoolRecord) : Prop where
  valid : validateRecord r = .ok ()
  refs : r.casRefs.length < 2 ^ 16

def headerBytes (r : SpoolRecord) : Bytes :=
  be16 spoolFrameVersion ++ (be64 r.spoolGeneration ++ (stringBytes r.spoolRecordId ++
    (stringBytes r.sourceObservationId ++ (beBytes 2 r.casRefs.length ++
      (r.casRefs.flatMap utf8 ++ beBytes 8 r.recordBody.length)))))

def frameBytes (H : Sha256) (r : SpoolRecord) : Bytes :=
  magic ++ (be16 spoolFrameVersion ++ (beBytes 4 (headerBytes r).length ++
    (beBytes 8 r.recordBody.length ++ (checksum H (headerBytes r) r.recordBody ++
      (headerBytes r ++ (r.recordBody ++ commitTrailer))))))

theorem validateRecord_ok {r : SpoolRecord} : validateRecord r = .ok () ↔
    r.spoolGeneration ≠ 0 ∧ utf8 r.spoolRecordId ≠ [] ∧ (utf8 r.spoolRecordId).length ≤ 256 ∧
      utf8 r.sourceObservationId ≠ [] ∧ (utf8 r.sourceObservationId).length ≤ 256 ∧
      r.recordBody.length ≤ maxRecordBody ∧ r.casRefs.Nodup ∧
      ∀ value ∈ r.casRefs, (utf8 value).length = 64 ∧ ∀ b ∈ utf8 value, isLowerHex b = true := by
  rw [validateRecord, ite_error_ok]
  simp only [Bool.or_eq_true, decide_eq_true_eq, gt_iff_lt, Bool.not_eq_true',
    decide_eq_false_iff_not, List.any_eq_true, ne_eq, List.all_eq_false, not_or, not_and, not_exists,
    not_lt, not_not, Bool.not_eq_true, Bool.not_eq_false, and_assoc]

theorem length_flatMap_utf8 {refs : List String} (h : ∀ value ∈ refs, (utf8 value).length = 64) :
    (refs.flatMap utf8).length = 64 * refs.length := by
  induction refs with
  | nil => rfl
  | cons x xs ih =>
    have hx := h x List.mem_cons_self
    have hxs := ih fun value hv => h value (List.mem_cons_of_mem _ hv)
    simp only [List.flatMap_cons, List.length_append, List.length_cons, hx, hxs]
    omega

/-- The header always fits its `u32` length field. -/
theorem length_headerBytes_lt {r : SpoolRecord} (ha : Accepted r) : (headerBytes r).length < 2 ^ 32 := by
  obtain ⟨-, -, h3, -, h5, -, -, h8⟩ := validateRecord_ok.mp ha.valid
  have hr := length_flatMap_utf8 fun value hv => (h8 value hv).1
  have := ha.refs
  simp only [headerBytes, List.length_append, length_be16, length_be64, length_stringBytes,
    length_beBytes, hr]
  omega

theorem body_lt {r : SpoolRecord} (ha : Accepted r) : r.recordBody.length ≤ maxRecordBody :=
  (validateRecord_ok.mp ha.valid).2.2.2.2.2.1

theorem body_lt_u64 {r : SpoolRecord} (ha : Accepted r) : r.recordBody.length < 256 ^ 8 :=
  Nat.lt_of_le_of_lt (body_lt ha) (by decide)

theorem length_frameBytes (H : Sha256) (r : SpoolRecord) :
    (frameBytes H r).length =
      prefixLength + (headerBytes r).length + r.recordBody.length + commitTrailer.length := by
  simp only [frameBytes, checksum, List.length_append, length_be16, length_beBytes, H.digest_length,
    prefixLength, magic, commitTrailer, List.length_cons, List.length_nil]
  omega

theorem frameBytes_ne_nil (H : Sha256) (r : SpoolRecord) : frameBytes H r ≠ [] := by
  simp [frameBytes, magic]

theorem foldl_utf8 (refs : List String) : ∀ out : Bytes,
    refs.foldl (fun out reference => out ++ utf8 reference) out = out ++ refs.flatMap utf8 := by
  induction refs with
  | nil => intro out; simp
  | cons x xs ih => intro out; simp [ih]

theorem encodeFrame_ok {H : Sha256} {r : SpoolRecord} {b : Bytes} :
    encodeFrame H r = .ok b ↔ Accepted r ∧ b = frameBytes H r := by
  have hheader : ∀ out : Bytes, out = be16 spoolFrameVersion ++ be64 r.spoolGeneration ++
      beBytes 2 (utf8 r.spoolRecordId).length ++ utf8 r.spoolRecordId ++
      beBytes 2 (utf8 r.sourceObservationId).length ++ utf8 r.sourceObservationId ++
      beBytes 2 r.casRefs.length ++ r.casRefs.flatMap utf8 ++ beBytes 8 r.recordBody.length →
      out = headerBytes r := by
    intro out h
    rw [h, headerBytes]
    simp only [stringBytes, List.append_assoc]
  simp only [encodeFrame, putString, bind_eq_ok, ensure_ok, pure_eq_ok, foldl_utf8,
    decide_eq_true_eq]
  refine ⟨fun h => ?_, fun h => ?_⟩
  · obtain ⟨_, hv, _, -, _, ⟨_, -, rfl⟩, _, ⟨_, -, rfl⟩, _, hrefs, _, -, rfl⟩ := h
    refine ⟨⟨hv, hrefs⟩, ?_⟩
    rw [hheader _ rfl]
    simp only [frameBytes, List.append_assoc]
  · obtain ⟨ha, hb⟩ := h
    obtain ⟨-, -, h3, -, h5, h6, -, -⟩ := validateRecord_ok.mp ha.valid
    have hlen := length_headerBytes_lt ha
    simp only [maxRecordBody] at h6
    refine ⟨(), ha.valid, (), by omega, _, ⟨(), by omega, rfl⟩, _, ⟨(), by omega, rfl⟩, (), ha.refs,
      (), ?_, ?_⟩
    · rw [hheader _ rfl]; exact hlen
    · rw [hheader _ rfl, hb]
      simp only [frameBytes, List.append_assoc]

/-! ## What the decoder accepts -/

theorem decodeHeader_ok {b : Bytes} {hd : Header} : decodeHeader b = .ok hd ↔
    ((utf8 hd.spoolRecordId).length < 2 ^ 16 ∧ (utf8 hd.sourceObservationId).length < 2 ^ 16 ∧
      hd.casRefs.length < 2 ^ 16 ∧ ∀ value ∈ hd.casRefs, (utf8 value).length = 64) ∧
    b = be16 hd.protocolVersion ++ (be64 hd.spoolGeneration ++ (stringBytes hd.spoolRecordId ++
      (stringBytes hd.sourceObservationId ++ (beBytes 2 hd.casRefs.length ++
        (hd.casRefs.flatMap utf8 ++ be64 hd.payloadLength))))) := by
  simp only [decodeHeader, headerFields, bind_eq_ok, ensure_ok, pure_eq_ok, Prod.exists,
    Cursor.bind_ok, Cursor.u16_ok, Cursor.u64_ok, Cursor.string_ok, Cursor.pure_ok,
    Cursor.times_ok (fun _ _ _ => Cursor.text_ok)]
  refine ⟨fun h => ?_, fun h => ?_⟩
  · obtain ⟨_, rest, ⟨v, _, hb, g, _, rfl, id, _, ⟨hid, rfl⟩, obs, _, ⟨hobs, rfl⟩, n, _, rfl, refs, _,
      ⟨hn, hrefs, rfl⟩, pl, _, rfl, rfl, rfl⟩, _, hrest, rfl⟩ := h
    obtain rfl := List.isEmpty_iff.mp hrest
    have hlt := n.toNat_lt
    have hcount : be16 n = beBytes 2 refs.length := by rw [hn]; rfl
    refine ⟨⟨hid, hobs, by rw [hn]; exact hlt, hrefs⟩, ?_⟩
    rw [hb, hcount, List.append_nil]
  · obtain ⟨⟨h1, h2, h3, h4⟩, hb⟩ := h
    refine ⟨hd, [], ⟨hd.protocolVersion, _, hb, hd.spoolGeneration, _, rfl, hd.spoolRecordId, _,
      ⟨h1, rfl⟩, hd.sourceObservationId, _, ⟨h2, rfl⟩, UInt16.ofNat hd.casRefs.length, _, ?_, hd.casRefs,
      _, ⟨?_, h4, rfl⟩, hd.payloadLength, [], (List.append_nil _).symm, rfl, rfl⟩, (), rfl, rfl⟩
    · rw [be16_ofNat h3]
    · rw [UInt16.toNat_ofNat', Nat.mod_eq_of_lt h3]

theorem exists_fields {rem : Bytes} (h : prefixLength ≤ rem.length) :
    ∃ m v hl bl ck tail : Bytes, m.length = 8 ∧ v.length = 2 ∧ hl.length = 4 ∧ bl.length = 8 ∧
      ck.length = 32 ∧ rem = m ++ (v ++ (hl ++ (bl ++ (ck ++ tail)))) := by
  simp only [prefixLength] at h
  refine ⟨rem.take 8, (rem.drop 8).take 2, (rem.drop 10).take 4, (rem.drop 14).take 8,
    (rem.drop 22).take 32, rem.drop 54, ?_, ?_, ?_, ?_, ?_, ?_⟩
  · simp only [List.length_take]; omega
  · simp only [List.length_take, List.length_drop]; omega
  · simp only [List.length_take, List.length_drop]; omega
  · simp only [List.length_take, List.length_drop]; omega
  · simp only [List.length_take, List.length_drop]; omega
  · rw [show rem.drop 54 = (rem.drop 22).drop 32 by rw [List.drop_drop], List.take_append_drop,
      show rem.drop 22 = (rem.drop 14).drop 8 by rw [List.drop_drop], List.take_append_drop,
      show rem.drop 14 = (rem.drop 10).drop 4 by rw [List.drop_drop], List.take_append_drop,
      show rem.drop 10 = (rem.drop 8).drop 2 by rw [List.drop_drop], List.take_append_drop,
      List.take_append_drop]

section Fields
variable {m v hl bl ck tail : Bytes} (hm : m.length = 8) (hv : v.length = 2) (hhl : hl.length = 4)
  (hbl : bl.length = 8) (hck : ck.length = 32)

include hm hv hhl hbl hck in
theorem completeFrame_fields (H : Sha256) (n k : Nat) :
    completeFrame H (m ++ (v ++ (hl ++ (bl ++ (ck ++ tail))))) n k = do
      ensure .corrupt ((tail.drop (n + k)).take 8 = commitTrailer &&
        ck = checksum H (tail.take n) ((tail.drop n).take k))
      let header ← decodeHeader (tail.take n)
      let record : SpoolRecord := ⟨header.spoolGeneration, header.spoolRecordId,
        header.sourceObservationId, header.casRefs, (tail.drop n).take k⟩
      ensure .corrupt (header.protocolVersion = spoolFrameVersion
        && header.payloadLength.toNat = k && (validateRecord record).isOk)
      return { record, frameLength := prefixLength + n + k + commitTrailer.length } := by
  have hdrop : ∀ j, (m ++ (v ++ (hl ++ (bl ++ (ck ++ tail))))).drop (prefixLength + j) = tail.drop j := by
    intro j
    rw [prefixLength, show 8 + 2 + 4 + 8 + 32 + j = 8 + (2 + (4 + (8 + (32 + j)))) by omega,
      drop_field hm, drop_field hv, drop_field hhl, drop_field hbl, drop_field hck]
  have hcheck : ((m ++ (v ++ (hl ++ (bl ++ (ck ++ tail))))).drop 22).take 32 = ck := by
    rw [show 22 = 8 + (2 + (4 + (8 + 0))) by omega, drop_field hm, drop_field hv, drop_field hhl,
      drop_field hbl, List.drop_zero, take_field hck]
  have h0 := hdrop 0
  rw [Nat.add_zero, List.drop_zero] at h0
  rw [completeFrame, h0, hdrop n, Nat.add_assoc prefixLength n k, hdrop (n + k), hcheck]
  rfl

include hm hv hhl hbl hck in
theorem scanFrame_fields (H : Sha256) :
    scanFrame H (m ++ (v ++ (hl ++ (bl ++ (ck ++ tail))))) =
      if m ≠ magic then .error .corrupt
      else if v ≠ be16 spoolFrameVersion then .error .corrupt
      else if beNat bl > maxRecordBody then .error .oversize
      else if tail.length < beNat hl + beNat bl + commitTrailer.length then .ok none
      else (completeFrame H (m ++ (v ++ (hl ++ (bl ++ (ck ++ tail))))) (beNat hl) (beNat bl)).map
        some := by
  have hhlt := beNat_lt hl
  rw [hhl] at hhlt
  have hm' : (m ++ (v ++ (hl ++ (bl ++ (ck ++ tail))))).take 8 = m := take_field hm
  have hv' : ((m ++ (v ++ (hl ++ (bl ++ (ck ++ tail))))).drop 8).take 2 = v := by
    rw [show 8 = 8 + 0 by omega, drop_field hm, List.drop_zero, take_field hv]
  have hhl' : ((m ++ (v ++ (hl ++ (bl ++ (ck ++ tail))))).drop 10).take 4 = hl := by
    rw [show 10 = 8 + (2 + 0) by omega, drop_field hm, drop_field hv, List.drop_zero, take_field hhl]
  have hbl' : ((m ++ (v ++ (hl ++ (bl ++ (ck ++ tail))))).drop 14).take 8 = bl := by
    rw [show 14 = 8 + (2 + (4 + 0)) by omega, drop_field hm, drop_field hv, drop_field hhl,
      List.drop_zero, take_field hbl]
  have hver : (UInt16.ofNat (beNat v) ≠ spoolFrameVersion) = (v ≠ be16 spoolFrameVersion) := by
    refine propext (not_congr ⟨fun h => ?_, fun h => ?_⟩)
    · rw [← h, be16_ofNat_beNat hv]
    · rw [h, ofNat_beNat_be16]
  have hlen : (m ++ (v ++ (hl ++ (bl ++ (ck ++ tail))))).length = prefixLength + tail.length := by
    simp only [List.length_append, hm, hv, hhl, hbl, hck, prefixLength]
    omega
  rw [scanFrame, hm', hv', hhl', hbl', hlen, if_neg (by omega)]
  simp only [hver]
  by_cases hbig : beNat bl > maxRecordBody
  · simp only [hbig, if_true]
  · have hfit : ¬ 2 ^ 64 ≤ prefixLength + beNat hl + beNat bl + commitTrailer.length := by
      simp only [maxRecordBody, prefixLength, commitTrailer, List.length_cons, List.length_nil,
        Nat.reducePow] at *
      omega
    have hshort : (prefixLength + tail.length <
        prefixLength + beNat hl + beNat bl + commitTrailer.length) =
        (tail.length < beNat hl + beNat bl + commitTrailer.length) := by
      apply propext
      omega
    simp only [hbig, if_false, hfit, hshort]

include hm hv hhl hbl hck in
/-- A frame that passes all checks is, field for field, the encoding of the record it returns. -/
theorem completeFrame_fields_ok {H : Sha256} {f : DecodedFrame}
    (hlong : beNat hl + beNat bl + 8 ≤ tail.length)
    (h : completeFrame H (m ++ (v ++ (hl ++ (bl ++ (ck ++ tail))))) (beNat hl) (beNat bl) = .ok f) :
    Accepted f.record ∧ hl = beBytes 4 (headerBytes f.record).length ∧
      bl = beBytes 8 f.record.recordBody.length ∧
      ck = checksum H (headerBytes f.record) f.record.recordBody ∧
      ∃ rest, tail = headerBytes f.record ++ (f.record.recordBody ++ (commitTrailer ++ rest)) := by
  rw [completeFrame_fields hm hv hhl hbl hck] at h
  simp only [bind_eq_ok, ensure_ok, pure_eq_ok, Bool.and_eq_true, decide_eq_true_eq] at h
  obtain ⟨_, ⟨htrailer, hsum⟩, hd, hdec, _, ⟨⟨hproto, hpay⟩, hvalid⟩, rfl⟩ := h
  obtain ⟨⟨-, -, hrefs, -⟩, hhead⟩ := decodeHeader_ok.mp hdec
  have hbodyLen : ((tail.drop (beNat hl)).take (beNat bl)).length = beNat bl := by
    rw [List.length_take, List.length_drop]
    omega
  have hheadLen : (tail.take (beNat hl)).length = beNat hl := by
    rw [List.length_take]
    omega
  have htail : tail = tail.take (beNat hl) ++ ((tail.drop (beNat hl)).take (beNat bl) ++
      (commitTrailer ++ tail.drop (beNat hl + beNat bl + 8))) := by
    rw [← htrailer]
    simp only [← List.drop_drop, List.take_append_drop]
  -- the header that was read is the one the encoder writes for the decoded record
  have hheader : tail.take (beNat hl) = headerBytes ⟨hd.spoolGeneration, hd.spoolRecordId,
      hd.sourceObservationId, hd.casRefs, (tail.drop (beNat hl)).take (beNat bl)⟩ := by
    rw [hhead, headerBytes, hproto, hbodyLen, ← hpay]
    rfl
  dsimp only
  refine ⟨⟨?_, hrefs⟩, ?_, ?_, ?_, tail.drop (beNat hl + beNat bl + 8), ?_⟩
  · generalize validateRecord _ = res at hvalid
    cases res with
    | error e => cases hvalid
    | ok u => rfl
  · rw [← hheader, hheadLen, ← hhl, beBytes_beNat]
  · rw [hbodyLen, ← hbl, beBytes_beNat]
  · rw [← hheader, hsum]
  · rw [← hheader, ← htail]

end Fields

/-- `decode_header` reads back the header that `encode_frame` wrote. -/
theorem decodeHeader_headerBytes {r : SpoolRecord} (ha : Accepted r) :
    decodeHeader (headerBytes r) = .ok ⟨spoolFrameVersion, r.spoolGeneration, r.spoolRecordId,
      r.sourceObservationId, r.casRefs, UInt64.ofNat r.recordBody.length⟩ := by
  obtain ⟨-, -, h3, -, h5, h6, -, h8⟩ := validateRecord_ok.mp ha.valid
  simp only [maxRecordBody] at h6
  refine decodeHeader_ok.mpr ⟨⟨?_, ?_, ha.refs, fun value hv => (h8 value hv).1⟩, ?_⟩
  · exact Nat.lt_of_le_of_lt h3 (by decide)
  · exact Nat.lt_of_le_of_lt h5 (by decide)
  · show headerBytes r = _
    rw [be64_ofNat (show r.recordBody.length < 2 ^ 64 by omega)]
    rfl

/-- A whole frame at the head of the input is decoded, whatever follows it. -/
theorem scanFrame_frame (H : Sha256) {r : SpoolRecord} (ha : Accepted r) (rest : Bytes) :
    scanFrame H (frameBytes H r ++ rest) = .ok (some ⟨r, (frameBytes H r).length⟩) := by
  have hhead := length_headerBytes_lt ha
  have hbody := body_lt ha
  have hbody64 := body_lt_u64 ha
  have hck : (checksum H (headerBytes r) r.recordBody).length = 32 := H.digest_length _
  have hhl := beNat_beBytes 4 (headerBytes r).length (by simpa using hhead)
  have hbl := beNat_beBytes 8 r.recordBody.length hbody64
  have hpayload : (UInt64.ofNat r.recordBody.length).toNat = r.recordBody.length := by
    rw [UInt64.toNat_ofNat', Nat.mod_eq_of_lt (by simpa using hbody64)]
  have hsplit : frameBytes H r ++ rest = magic ++ (be16 spoolFrameVersion ++
      (beBytes 4 (headerBytes r).length ++ (beBytes 8 r.recordBody.length ++
        (checksum H (headerBytes r) r.recordBody ++
          (headerBytes r ++ (r.recordBody ++ (commitTrailer ++ rest))))))) := by
    simp only [frameBytes, List.append_assoc]
  rw [hsplit, scanFrame_fields rfl (length_be16 _) (length_beBytes _ _) (length_beBytes _ _) hck,
    completeFrame_fields rfl (length_be16 _) (length_beBytes _ _) (length_beBytes _ _) hck, hhl, hbl,
    if_neg (by simp), if_neg (by simp), if_neg (by omega),
    if_neg (by simp only [List.length_append]; omega), take_field rfl, List.drop_left, take_field rfl,
    drop_field rfl, List.drop_left, take_field (show commitTrailer.length = 8 from rfl),
    decodeHeader_headerBytes ha, length_frameBytes]
  simp [ensure, bind, Except.bind, pure, Except.pure, Except.map, ha.valid, Except.isOk, Except.toBool,
    hpayload]

/-- One turn of the scan returns a frame exactly when the encoding of its record stands at the head
of the input. -/
theorem scanFrame_some {H : Sha256} {rem : Bytes} {f : DecodedFrame} :
    scanFrame H rem = .ok (some f) ↔ Accepted f.record ∧
      f.frameLength = (frameBytes H f.record).length ∧ frameBytes H f.record <+: rem := by
  refine ⟨fun h => ?_, fun ⟨ha, hlen, rest, hrest⟩ => ?_⟩
  · by_cases hshort : rem.length < prefixLength
    · rw [scanFrame, if_pos hshort] at h
      split at h <;> cases h
    obtain ⟨m, v, hl, bl, ck, tail, hm, hv, hhl, hbl, hck, rfl⟩ := exists_fields (Nat.not_lt.mp hshort)
    rw [scanFrame_fields hm hv hhl hbl hck] at h
    split at h
    · cases h
    split at h
    · cases h
    split at h
    · cases h
    split at h
    · cases h
    next hmagic hversion hbig hfull =>
    rw [not_not] at hmagic hversion
    have hc := map_some_ok h
    have hlong : beNat hl + beNat bl + 8 ≤ tail.length := Nat.not_lt.mp hfull
    obtain ⟨ha, hhl', hbl', hck', rest, htail⟩ := completeFrame_fields_ok hm hv hhl hbl hck hlong hc
    refine ⟨ha, ?_, rest, ?_⟩
    · rw [completeFrame_length hc, length_frameBytes, hhl', hbl', beNat_beBytes 4 _
        (by simpa using length_headerBytes_lt ha), beNat_beBytes 8 _ (body_lt_u64 ha)]
    · rw [hmagic, hversion, hhl', hbl', hck', htail]
      simp only [frameBytes, List.append_assoc]
  · rw [← hrest, scanFrame_frame H ha, ← hlen]

/-- A frame cut anywhere, in the magic, the prefix, the header, the body or the trailer, is a torn
tail and not corruption. -/
theorem scanFrame_torn {H : Sha256} {r : SpoolRecord} (ha : Accepted r) {p : Bytes}
    (hp : p <+: frameBytes H r) (hne : p ≠ frameBytes H r) : scanFrame H p = .ok none := by
  have hlt : p.length < (frameBytes H r).length :=
    Nat.lt_of_le_of_ne hp.length_le fun h => hne (hp.eq_of_length h)
  by_cases hshort : p.length < prefixLength
  · have hcut : p.take (min p.length magic.length) <+: magic := by
      refine List.prefix_of_prefix_length_le ((List.take_prefix _ _).trans hp) ?_ ?_
      · exact ⟨_, rfl⟩
      · rw [List.length_take]; omega
    rw [scanFrame, if_pos hshort, if_pos (List.isPrefixOf_iff_prefix.mpr hcut)]
  · obtain ⟨m, v, hl, bl, ck, tail, hm, hv, hhl, hbl, hck, rfl⟩ := exists_fields (Nat.not_lt.mp hshort)
    obtain ⟨t, ht⟩ := hp
    simp only [frameBytes, List.append_assoc] at ht
    obtain ⟨hmagic, ht⟩ := List.append_inj ht hm
    obtain ⟨hversion, ht⟩ := List.append_inj ht (hv.trans (length_be16 _).symm)
    obtain ⟨hhead, ht⟩ := List.append_inj ht (hhl.trans (length_beBytes _ _).symm)
    obtain ⟨hbody, ht⟩ := List.append_inj ht (hbl.trans (length_beBytes _ _).symm)
    have hmax := body_lt ha
    rw [length_frameBytes] at hlt
    simp only [List.length_append, hm, hv, hhl, hbl, hck, prefixLength] at hlt
    rw [scanFrame_fields hm hv hhl hbl hck, if_neg (not_not.mpr hmagic), if_neg (not_not.mpr hversion),
      hhead, hbody, beNat_beBytes 8 _ (body_lt_u64 ha),
      beNat_beBytes 4 _ (by simpa using length_headerBytes_lt ha), if_neg (by omega), if_pos (by omega)]

/-! ## The scanning loop -/

/-- The frame the scan reports for a record. -/
def decodedFrame (H : Sha256) (r : SpoolRecord) : DecodedFrame := ⟨r, (frameBytes H r).length⟩

def segmentBytes (H : Sha256) (rs : List SpoolRecord) : Bytes := rs.flatMap (frameBytes H)

theorem scanFrame_nil (H : Sha256) : scanFrame H [] = .ok none := by
  simp [scanFrame, prefixLength]

/-- From any offset the loop reads whole frames up to a tail it calls torn. -/
theorem scanFrom_ok {H : Sha256} {bytes : Bytes} {offset : Nat} {frames : List DecodedFrame}
    {s : FrameScan} (hoff : offset ≤ bytes.length) : scanFrom H bytes offset frames = .ok s ↔
      ∃ rs tail, (∀ r ∈ rs, Accepted r) ∧ scanFrame H tail = .ok none ∧
        bytes.drop offset = segmentBytes H rs ++ tail ∧
        s = ⟨frames ++ rs.map (decodedFrame H), offset + (segmentBytes H rs).length, !tail.isEmpty⟩ := by
  fun_induction scanFrom H bytes offset frames with
  | case1 offset frames hlt e hm =>
    refine ⟨fun h => (by cases h), fun ⟨rs, tail, hrs, htail, hsplit, _⟩ => ?_⟩
    cases rs with
    | nil => rw [hsplit] at hm; simp [segmentBytes, htail] at hm
    | cons r rs =>
      rw [hsplit, segmentBytes, List.flatMap_cons, List.append_assoc,
        scanFrame_frame H (hrs r List.mem_cons_self)] at hm
      cases hm
  | case2 offset frames hlt hm =>
    have hne : bytes.drop offset ≠ [] := by simp [hlt]
    refine ⟨fun h => ?_, fun ⟨rs, tail, hrs, htail, hsplit, hs⟩ => ?_⟩
    · cases h
      refine ⟨[], bytes.drop offset, by simp, hm, rfl, ?_⟩
      simp [segmentBytes, hlt]
    · cases rs with
      | nil =>
        simp only [segmentBytes, List.flatMap_nil, List.nil_append] at hsplit
        rw [hs, ← hsplit]
        simp [segmentBytes, hlt]
      | cons r rs =>
        rw [hsplit, segmentBytes, List.flatMap_cons, List.append_assoc,
          scanFrame_frame H (hrs r List.mem_cons_self)] at hm
        cases hm
  | case3 offset frames hlt f hm ih =>
    obtain ⟨ha, hlen, rest, hrest⟩ := scanFrame_some.mp hm
    have hf : f = decodedFrame H f.record := by rw [decodedFrame, ← hlen]
    have hdrop : bytes.drop (offset + f.frameLength) = rest := by
      rw [← List.drop_drop, ← hrest, hlen, List.drop_left]
    have hbound : offset + f.frameLength ≤ bytes.length := by
      have := congrArg List.length hrest
      rw [List.length_append, List.length_drop] at this
      omega
    rw [ih hbound, hdrop]
    refine ⟨fun ⟨rs, tail, hrs, htail, hsplit, hs⟩ => ?_, fun ⟨rs, tail, hrs, htail, hsplit, hs⟩ => ?_⟩
    · refine ⟨f.record :: rs, tail, ?_, htail, ?_, ?_⟩
      · simpa using ⟨ha, hrs⟩
      · rw [← hrest, hsplit]
        simp [segmentBytes]
      · rw [hs, List.map_cons, ← hf]
        simp [segmentBytes, hlen]
        omega
    · cases rs with
      | nil =>
        simp only [segmentBytes, List.flatMap_nil, List.nil_append] at hsplit
        rw [hsplit, htail] at hm
        cases hm
      | cons r rs =>
        rw [hsplit, segmentBytes, List.flatMap_cons, List.append_assoc,
          scanFrame_frame H (hrs r List.mem_cons_self)] at hm
        cases hm
        refine ⟨rs, tail, fun r' hr' => hrs r' (List.mem_cons_of_mem _ hr'), htail, ?_, ?_⟩
        · rw [hsplit, segmentBytes, List.flatMap_cons, List.append_assoc] at hrest
          exact List.append_cancel_left hrest
        · rw [hs]
          simp [segmentBytes, decodedFrame]
          omega
  | case4 offset frames hge =>
    have hnil : bytes.drop offset = [] := by simp; omega
    rw [hnil]
    refine ⟨fun h => ?_, fun ⟨rs, tail, _, _, hsplit, hs⟩ => ?_⟩
    · cases h
      exact ⟨[], [], by simp, scanFrame_nil H, rfl, by simp [segmentBytes]⟩
    · obtain ⟨hseg, rfl⟩ := List.append_eq_nil_iff.mp hsplit.symm
      cases rs with
      | nil => rw [hs]; simp [segmentBytes]
      | cons r rs => simp [segmentBytes, frameBytes_ne_nil] at hseg

theorem scanFrames_ok {H : Sha256} {bytes : Bytes} {s : FrameScan} : scanFrames H bytes = .ok s ↔
    ∃ rs tail, (∀ r ∈ rs, Accepted r) ∧ scanFrame H tail = .ok none ∧
      bytes = segmentBytes H rs ++ tail ∧
      s = ⟨rs.map (decodedFrame H), (segmentBytes H rs).length, !tail.isEmpty⟩ := by
  rw [scanFrames, scanFrom_ok (Nat.zero_le bytes.length)]
  simp only [List.drop_zero, List.nil_append, Nat.zero_add]

/-! ## Both directions -/

theorem mapM_encodeFrame_ok {H : Sha256} : ∀ {rs : List SpoolRecord} {encs : List Bytes},
    rs.mapM (encodeFrame H) = .ok encs ↔ (∀ r ∈ rs, Accepted r) ∧ encs = rs.map (frameBytes H) := by
  intro rs
  induction rs with
  | nil => intro encs; rw [List.mapM_nil, pure_eq_ok]; simp [eq_comm]
  | cons r rs ih =>
    intro encs
    simp only [List.mapM_cons, bind_eq_ok, pure_eq_ok, encodeFrame_ok, ih, List.mem_cons,
      forall_eq_or_imp, List.map_cons]
    refine ⟨fun h => ?_, fun h => ?_⟩
    · obtain ⟨_, ⟨hr, rfl⟩, _, ⟨hrs, rfl⟩, rfl⟩ := h
      exact ⟨⟨hr, hrs⟩, rfl⟩
    · obtain ⟨⟨hr, hrs⟩, henc⟩ := h
      exact ⟨_, ⟨hr, rfl⟩, _, ⟨hrs, rfl⟩, henc.symm⟩

theorem flatten_map_frameBytes (H : Sha256) (rs : List SpoolRecord) :
    (rs.map (frameBytes H)).flatten = segmentBytes H rs :=
  List.flatMap_def.symm

/-- **A crash cut is read back as a torn tail.** Frames written in full, followed by a proper prefix
of one more frame, scan to exactly the frames written; the prefix is reported iff it is not empty. -/
theorem scanFrames_encode (H : Sha256) (rs : List SpoolRecord) (encs : List Bytes)
    (hrs : rs.mapM (encodeFrame H) = .ok encs) (r : SpoolRecord) (enc p : Bytes)
    (hr : encodeFrame H r = .ok enc) (hp : p <+: enc) (hproper : p ≠ enc) :
    ∃ s, scanFrames H (encs.flatten ++ p) = .ok s ∧
      s.frames.map (·.record) = rs ∧ s.frames.map (·.frameLength) = encs.map List.length ∧
      s.completeLength = encs.flatten.length ∧ (s.incompleteTail = true ↔ p ≠ []) := by
  obtain ⟨hacc, rfl⟩ := mapM_encodeFrame_ok.mp hrs
  obtain ⟨har, rfl⟩ := encodeFrame_ok.mp hr
  have htorn := scanFrame_torn har hp hproper
  rw [flatten_map_frameBytes]
  refine ⟨_, scanFrames_ok.mpr ⟨rs, p, hacc, htorn, rfl, rfl⟩, ?_, ?_, rfl, ?_⟩
  · simp [decodedFrame, Function.comp_def]
  · simp [decodedFrame, Function.comp_def]
  · simp

/-- A small record and the SHA-256 value of its frame. -/
def sampleRecord : SpoolRecord := ⟨1, "r1", "o1", [], [1, 2, 3]⟩

def sampleSha : Sha256 where
  digest _ := [0xd3, 0xe6, 0xae, 0x75, 0x5f, 0x94, 0x6e, 0x0a, 0x26, 0xe5, 0x61, 0xee, 0x5e, 0xe3, 0xab, 0xf5,
    0xd3, 0x02, 0x9b, 0x2a, 0x3d, 0x66, 0x7f, 0x07, 0x7c, 0x39, 0xda, 0xd4, 0xaa, 0xaf, 0x94, 0x96]
  digest_length _ := rfl

/-- One whole frame, then the same frame cut inside its prefix. -/
theorem scanFrames_encode_sample :
    ∃ s, scanFrames sampleSha ([frameBytes sampleSha sampleRecord].flatten ++
        (frameBytes sampleSha sampleRecord).take 20) = .ok s ∧
      s.frames.map (·.record) = [sampleRecord] ∧
      s.frames.map (·.frameLength) = [frameBytes sampleSha sampleRecord].map List.length ∧
      s.completeLength = [frameBytes sampleSha sampleRecord].flatten.length ∧
      (s.incompleteTail = true ↔ (frameBytes sampleSha sampleRecord).take 20 ≠ []) := by
  have hr : encodeFrame sampleSha sampleRecord = .ok (frameBytes sampleSha sampleRecord) :=
    encodeFrame_ok.mpr ⟨⟨by decide, by decide⟩, rfl⟩
  refine scanFrames_encode sampleSha [sampleRecord] _ ?_ sampleRecord _ _ hr (List.take_prefix _ _) ?_
  · exact mapM_encodeFrame_ok.mpr ⟨by simpa using (encodeFrame_ok.mp hr).1, rfl⟩
  · intro h
    have hlen := congrArg List.length h
    rw [List.length_take, length_frameBytes] at hlen
    simp only [prefixLength] at hlen
    omega

/-- **The scan accepts only the encoder's image.** Whatever bytes it accepts, re-encoding the decoded
records gives back the complete part byte for byte, so equal record lists mean equal complete parts. -/
theorem encode_scanFrames (H : Sha256) (b : Bytes) (s : FrameScan) (h : scanFrames H b = .ok s) :
    (∃ encs, (s.frames.map (·.record)).mapM (encodeFrame H) = .ok encs ∧
      encs.flatten = b.take s.completeLength ∧
      s.frames.map (·.frameLength) = encs.map List.length ∧
      (s.incompleteTail = false ↔ s.completeLength = b.length)) ∧
    ∀ b' s', scanFrames H b' = .ok s' → s'.frames.map (·.record) = s.frames.map (·.record) →
      b'.take s'.completeLength = b.take s.completeLength := by
  obtain ⟨rs, tail, hrs, -, rfl, rfl⟩ := scanFrames_ok.mp h
  have hrecords : ∀ rs : List SpoolRecord, (rs.map (decodedFrame H)).map (·.record) = rs := by
    intro rs
    simp [decodedFrame, Function.comp_def]
  refine ⟨⟨rs.map (frameBytes H), ?_, ?_, ?_, ?_⟩, fun b' s' h' heq => ?_⟩
  · rw [hrecords]
    exact mapM_encodeFrame_ok.mpr ⟨hrs, rfl⟩
  · rw [flatten_map_frameBytes, List.take_left]
  · simp [decodedFrame, Function.comp_def]
  · simp
  · obtain ⟨rs', tail', -, -, rfl, rfl⟩ := scanFrames_ok.mp h'
    rw [hrecords, hrecords] at heq
    rw [List.take_left, List.take_left, heq]

theorem encode_scanFrames_sample :
    ∃ s, scanFrames sampleSha (frameBytes sampleSha sampleRecord) = .ok s ∧
      (∃ encs, (s.frames.map (·.record)).mapM (encodeFrame sampleSha) = .ok encs ∧
        encs.flatten = (frameBytes sampleSha sampleRecord).take s.completeLength ∧
        s.frames.map (·.frameLength) = encs.map List.length ∧
        (s.incompleteTail = false ↔
          s.completeLength = (frameBytes sampleSha sampleRecord).length)) := by
  have hs : scanFrames sampleSha (frameBytes sampleSha sampleRecord) =
      .ok ⟨[decodedFrame sampleSha sampleRecord], (segmentBytes sampleSha [sampleRecord]).length, false⟩ :=
    scanFrames_ok.mpr ⟨[sampleRecord], [], by simpa using ⟨by decide, by decide⟩, scanFrame_nil _,
      by simp [segmentBytes], rfl⟩
  exact ⟨_, hs, (encode_scanFrames sampleSha _ _ hs).1⟩

end EverTrace.L1.Frame
