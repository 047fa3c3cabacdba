import SimpleWebrtc.TransportFeedbackCodec
import Mathlib.Algebra.Order.BigOperators.Group.List

/-!
# The parser reads back what the writer wrote

A report is determined by one optional receive delta for each status. The
symbols and the delta list which the writer takes are both projections of it,
so the round trip is stated over that one list: first for the status chunks,
then for the deltas, then for the packet.
-/
namespace SimpleWebrtc.TransportFeedbackCodec
open Library.Bytes Library.BitFields

section StatusChunks

theorem runLength_pos (symbol : ℕ) (rest : List ℕ) : 1 ≤ runLength symbol rest := by
  simp only [runLength]
  omega

theorem runLength_le (symbol : ℕ) (rest : List ℕ) : runLength symbol rest ≤ rest.length + 1 := by
  have h : (rest.takeWhile (· == symbol)).length ≤ rest.length :=
    (List.takeWhile_sublist _).length_le
  simp only [runLength]
  omega

theorem runLength_lt (symbol : ℕ) (rest : List ℕ) : runLength symbol rest < 8192 := by
  simp only [runLength]
  omega

theorem take_eq_replicate {symbol : ℕ} {rest : List ℕ} {n : ℕ}
    (h : n ≤ (rest.takeWhile (· == symbol)).length) : rest.take n = List.replicate n symbol := by
  induction rest generalizing n with
  | nil =>
      obtain rfl : n = 0 := by simpa using h
      rfl
  | cons x xs ih =>
      rcases n with _ | n
      · rfl
      · by_cases hx : x = symbol
        · subst hx
          simp only [List.takeWhile_cons, beq_self_eq_true, ite_true, List.length_cons] at h
          rw [List.take_succ_cons, ih (by omega), List.replicate_succ]
        · simp [hx] at h

/-- The run counted by the encoder repeats its first symbol. -/
theorem take_runLength (symbol : ℕ) (rest : List ℕ) :
    (symbol :: rest).take (runLength symbol rest) =
      List.replicate (runLength symbol rest) symbol := by
  obtain ⟨n, hn⟩ : ∃ n, runLength symbol rest = n + 1 :=
    ⟨runLength symbol rest - 1, by have := runLength_pos symbol rest; omega⟩
  have hle : n ≤ (rest.takeWhile (· == symbol)).length := by
    simp only [runLength] at hn
    omega
  rw [hn, List.take_succ_cons, take_eq_replicate hle, List.replicate_succ]

theorem decodeStatusChunk_run {symbol run remaining : ℕ} (hs : symbol ≤ 2) (hpos : 1 ≤ run)
    (hlt : run < 8192) (hle : run ≤ remaining) :
    decodeStatusChunk (UInt16.ofNat (symbol <<< 13 ||| run)).toNat remaining =
      .ok (List.replicate run symbol) := by
  have hword : symbol <<< 13 ||| run = symbol * 8192 + run := by
    rw [← Nat.shiftLeft_add_eq_or_of_lt (i := 13) hlt, Nat.shiftLeft_eq]
  have hnat : (UInt16.ofNat (symbol <<< 13 ||| run)).toNat = symbol * 8192 + run := by
    rw [hword, UInt16.toNat_ofNat']
    omega
  have hbit : (symbol * 8192 + run).testBit 15 = false :=
    Nat.testBit_lt_two_pow (by omega)
  have hsymbol : (symbol * 8192 + run) / 8192 % 4 = symbol := by omega
  have hrun : (symbol * 8192 + run) % 8192 = run := by omega
  rw [hnat, decodeStatusChunk, if_pos hbit]
  simp only [hsymbol, hrun]
  rw [if_neg (by omega), Nat.min_eq_left hle]

theorem packed_toNat {width count : ℕ} {symbols : List ℕ} {header : ℕ}
    (hw : ∀ s ∈ symbols, s < 2 ^ width) (hlen : symbols.length ≤ count)
    (hbits : width * count ≤ 16) (hheader : header < 2 ^ 16) :
    (UInt16.ofNat (packFrom width count 0 symbols header)).toNat =
      packFrom width count 0 symbols header := by
  have h := packFrom_lt hw (show 0 + symbols.length ≤ count by omega) hbits hheader
  rw [UInt16.toNat_ofNat', Nat.mod_eq_of_lt h]

theorem map_field_packFrom {width count : ℕ} {symbols : List ℕ} {header : ℕ}
    (hw : ∀ s ∈ symbols, s < 2 ^ width) (hlen : symbols.length ≤ count)
    (hheader : ∀ bit < width * count, header.testBit bit = false) :
    (List.range symbols.length).map (field width count (packFrom width count 0 symbols header)) =
      symbols := by
  apply List.ext_getElem
  · simp
  · intro i h₁ h₂
    rw [List.getElem_map, List.getElem_range]
    exact field_packFrom header hw hlen hheader h₂

theorem decodeStatusChunk_oneBit {symbols : List ℕ} {remaining : ℕ} (hs : ∀ s ∈ symbols, s ≤ 1)
    (hlen : symbols.length = min 14 remaining) :
    decodeStatusChunk (UInt16.ofNat (packFrom 1 14 0 symbols 0x8000)).toNat remaining =
      .ok symbols := by
  have hw : ∀ s ∈ symbols, s < 2 ^ 1 := fun s h => Nat.lt_succ_of_le (hs s h)
  have hle : 0 + symbols.length ≤ 14 := by omega
  rw [packed_toNat hw (by omega) (by decide) (by decide), decodeStatusChunk,
    packFrom_testBit_header _ hw hle (by decide), packFrom_testBit_header _ hw hle (by decide),
    if_neg (by decide), if_pos (by decide), ← hlen,
    map_field_packFrom hw (by omega) (by decide)]

theorem decodeStatusChunk_twoBit {symbols : List ℕ} {remaining : ℕ} (hs : ∀ s ∈ symbols, s ≤ 2)
    (hlen : symbols.length = min 7 remaining) :
    decodeStatusChunk (UInt16.ofNat (packFrom 2 7 0 symbols 0xC000)).toNat remaining =
      .ok symbols := by
  have hw : ∀ s ∈ symbols, s < 2 ^ 2 := fun s h => lt_of_le_of_lt (hs s h) (by decide)
  have hle : 0 + symbols.length ≤ 7 := by omega
  have hreserved : symbols.any (· == 3) = false := by
    rw [List.any_eq_false]
    intro s h
    have := hs s h
    simp only [beq_iff_eq]
    omega
  rw [packed_toNat hw (by omega) (by decide) (by decide), decodeStatusChunk,
    packFrom_testBit_header _ hw hle (by decide), packFrom_testBit_header _ hw hle (by decide),
    if_neg (by decide), if_neg (by decide)]
  simp only [statusesPerTwoBitChunk, ← hlen, map_field_packFrom hw (show symbols.length ≤ 7 by omega)
    (show ∀ bit < 2 * 7, (0xC000 : ℕ).testBit bit = false by decide), hreserved]
  rfl

/-- One pass of the encoder: a nonempty prefix of the symbols becomes a chunk which decodes to
that prefix. -/
theorem encodeStatusChunksFrom_step {symbol : ℕ} {rest : List ℕ} (fuel : ℕ)
    (hs : ∀ s ∈ symbol :: rest, s ≤ 2) :
    ∃ covered chunk, 1 ≤ covered ∧
      encodeStatusChunksFrom (fuel + 1) (symbol :: rest) =
        chunk :: encodeStatusChunksFrom fuel ((symbol :: rest).drop covered) ∧
      decodeStatusChunk chunk.toNat (rest.length + 1) = .ok ((symbol :: rest).take covered) := by
  by_cases hrun : runLength symbol rest ≥ statusesPerTwoBitChunk
  · refine ⟨runLength symbol rest, UInt16.ofNat (symbol <<< 13 ||| runLength symbol rest),
      runLength_pos symbol rest, ?_, ?_⟩
    · simp only [encodeStatusChunksFrom, if_pos hrun]
    · rw [take_runLength]
      exact decodeStatusChunk_run (hs symbol (by simp)) (runLength_pos symbol rest)
        (runLength_lt symbol rest) (runLength_le symbol rest)
  by_cases hone : ((symbol :: rest).take 14).all (· ≤ 1) = true
  · refine ⟨14, UInt16.ofNat (packFrom 1 14 0 ((symbol :: rest).take 14) 0x8000), by omega, ?_, ?_⟩
    · simp only [encodeStatusChunksFrom, if_neg hrun, if_pos hone]
    · apply decodeStatusChunk_oneBit
      · intro s h
        simpa using List.all_eq_true.mp hone s h
      · rw [List.length_take, List.length_cons]
  · refine ⟨7, UInt16.ofNat (packFrom 2 7 0 ((symbol :: rest).take 7) 0xC000), by omega, ?_, ?_⟩
    · simp only [encodeStatusChunksFrom, if_neg hrun, if_neg hone]
      rfl
    · apply decodeStatusChunk_twoBit
      · intro s h
        exact hs s (List.mem_of_mem_take h)
      · rw [List.length_take, List.length_cons]

/-- The chunk loop of the parser recovers the symbols from the chunks of the encoder. -/
theorem decodeStatusChunks_encode {data : List UInt8} {effectiveSize count : ℕ}
    {symbols : List ℕ} {fuel offset : ℕ} {known : List ℕ} {more : List UInt8} (passes : ℕ)
    (hs : ∀ s ∈ symbols, s ≤ 2) (hfuel : symbols.length ≤ fuel) (hpasses : symbols.length ≤ passes)
    (hdata : data.drop offset = (encodeStatusChunksFrom fuel symbols).flatMap u16Bytes ++ more)
    (hsize : offset + (encodeStatusChunksFrom fuel symbols).length * 2 ≤ effectiveSize)
    (hcount : known.length + symbols.length = count) :
    decodeStatusChunks data effectiveSize count passes offset known =
      .ok (offset + (encodeStatusChunksFrom fuel symbols).length * 2, known ++ symbols) := by
  induction fuel generalizing symbols offset known passes with
  | zero =>
      obtain rfl : symbols = [] := List.eq_nil_of_length_eq_zero (by omega)
      have hfull : ¬ known.length < count := by
        simp only [List.length_nil] at hcount
        omega
      cases passes <;> simp [decodeStatusChunks, encodeStatusChunksFrom, hfull]
  | succ fuel ih =>
      rcases symbols with _ | ⟨symbol, rest⟩
      · have hfull : ¬ known.length < count := by
          simp only [List.length_nil] at hcount
          omega
        cases passes <;> simp [decodeStatusChunks, encodeStatusChunksFrom, hfull]
      obtain ⟨covered, chunk, hcovered, hencode, hdecode⟩ := encodeStatusChunksFrom_step fuel hs
      rw [hencode] at hdata hsize ⊢
      simp only [List.length_cons] at hfuel hpasses hcount hsize ⊢
      obtain ⟨passes, rfl⟩ : ∃ n, passes = n + 1 := ⟨passes - 1, by omega⟩
      have hdrop : ((symbol :: rest).drop covered).length = rest.length + 1 - covered := by simp
      have htake : ((symbol :: rest).take covered).length = min covered (rest.length + 1) := by simp
      have hread : readU16 data offset = chunk := by
        have h := readU16_drop data offset 0
        rw [hdata, List.flatMap_cons, List.append_assoc, readU16_u16Bytes] at h
        exact h.symm
      have hnext : data.drop (offset + 2) =
          (encodeStatusChunksFrom fuel ((symbol :: rest).drop covered)).flatMap u16Bytes ++ more := by
        rw [← List.drop_drop, hdata]
        rfl
      have hremaining : count - known.length = rest.length + 1 := by omega
      rw [decodeStatusChunks, if_pos (by omega), if_neg (by omega), hread, hremaining, hdecode]
      change decodeStatusChunks data effectiveSize count passes (offset + 2)
        (known ++ (symbol :: rest).take covered) = _
      rw [ih passes (fun s h => hs s (List.mem_of_mem_drop h)) (by omega) (by omega) hnext
        (by omega) (by rw [List.length_append, htake, hdrop]; omega),
        List.append_assoc, List.take_append_drop]
      congr 2
      omega

end StatusChunks

section ReceiveDeltas

/-- The statuses a list of optional deltas stands for. -/
def statusesFrom : UInt16 → List (Option ℤ) → List RtcpTransportFeedbackStatus
  | _, [] => []
  | sequence, delta :: deltas => ⟨sequence, delta.isSome, delta⟩ :: statusesFrom (sequence + 1) deltas

def FitsI16 (ticks : ℤ) : Prop := -32768 ≤ ticks ∧ ticks ≤ 32767

theorem statusDeltaSize_le (delta : Option ℤ) : statusDeltaSize delta ≤ 2 := by
  rcases delta with _ | ticks
  · simp [statusDeltaSize]
  · simp only [statusDeltaSize, deltaSizeOf]
    split_ifs <;> omega

theorem readI16_i16Word {ticks : ℤ} (h : FitsI16 ticks) (more : List UInt8) :
    readI16 (u16Bytes (i16Word ticks) ++ more) 0 = ticks := by
  obtain ⟨hlo, hhi⟩ := h
  simp only [readI16, readU16_u16Bytes, i16Word, UInt16.toNat_ofNat']
  split_ifs <;> omega

theorem byte_of_small {ticks : ℤ} (h : 0 ≤ ticks ∧ ticks ≤ 255) :
    ((UInt8.ofNat (ticks % 256).toNat).toNat : ℤ) = ticks := by
  rw [UInt8.toNat_ofNat']
  omega

theorem deltaBytes_length (ticks : List (Option ℤ)) (deltas : List ℤ) :
    (deltaBytes (ticks.map statusDeltaSize) deltas).length = (ticks.map statusDeltaSize).sum := by
  induction ticks generalizing deltas with
  | nil => rfl
  | cons delta ticks ih =>
      rw [List.map_cons, List.sum_cons, deltaBytes]
      have hle := statusDeltaSize_le delta
      split_ifs with h₀ h₁
      · rw [ih, h₀, zero_add]
      · rw [List.length_cons, ih, h₁, add_comm]
      · rw [List.length_append, ih, u16Bytes_length]
        omega

/-- The status loop of the parser recovers every optional delta. -/
theorem readStatuses_deltaBytes {data : List UInt8} {effectiveSize : ℕ} {ticks : List (Option ℤ)}
    (sequence : UInt16) (offset : ℕ) {more : List UInt8}
    (hfits : ∀ delta, some delta ∈ ticks → FitsI16 delta)
    (hdata : data.drop offset =
      deltaBytes (ticks.map statusDeltaSize) (ticks.filterMap id) ++ more)
    (hsize : offset + (ticks.map statusDeltaSize).sum ≤ effectiveSize) :
    readStatuses data effectiveSize (ticks.map statusDeltaSize) sequence offset =
      .ok (statusesFrom sequence ticks, offset + (ticks.map statusDeltaSize).sum) := by
  induction ticks generalizing sequence offset with
  | nil => rfl
  | cons delta ticks ih =>
      have hrest : ∀ d, some d ∈ ticks → FitsI16 d := fun d h => hfits d (List.mem_cons_of_mem _ h)
      rw [List.map_cons, List.sum_cons] at hsize
      rw [List.map_cons, List.sum_cons, readStatuses, statusesFrom]
      rcases delta with _ | delta
      · simp only [statusDeltaSize, Nat.zero_add] at hsize
        rw [if_neg (by decide), if_neg (by decide), ih (sequence + 1) offset hrest hdata hsize]
        simp [statusDeltaSize, bind, Except.bind]
      by_cases hsmall : 0 ≤ delta ∧ delta ≤ 255
      · have hone : statusDeltaSize (some delta) = 1 := if_pos hsmall
        rw [hone] at hsize ⊢
        rw [List.map_cons, hone, List.filterMap_cons_some (by rfl)] at hdata
        have hread : ((byteAt data offset : ℕ) : ℤ) = delta := by
          have h := byteAt_drop data offset 0
          rw [hdata] at h
          rw [← Nat.add_zero offset, ← h]
          exact byte_of_small hsmall
        have hnext : data.drop (offset + 1) =
            deltaBytes (ticks.map statusDeltaSize) (ticks.filterMap id) ++ more := by
          rw [← List.drop_drop, hdata]
          rfl
        rw [if_pos rfl, if_neg (by omega), ih (sequence + 1) (offset + 1) hrest hnext (by omega)]
        simp [hread, bind, Except.bind, Nat.add_assoc]
      · have htwo : statusDeltaSize (some delta) = 2 := if_neg hsmall
        rw [htwo] at hsize ⊢
        rw [List.map_cons, htwo, List.filterMap_cons_some (by rfl)] at hdata
        have hread : readI16 data offset = delta := by
          have h := readU16_drop data offset 0
          rw [hdata] at h
          have hword := readI16_i16Word (hfits delta (by simp))
            (deltaBytes (ticks.map statusDeltaSize) (ticks.filterMap id) ++ more)
          simp only [readI16] at hword ⊢
          rw [Nat.add_zero] at h
          rw [← h]
          exact hword
        have hnext : data.drop (offset + 2) =
            deltaBytes (ticks.map statusDeltaSize) (ticks.filterMap id) ++ more := by
          rw [← List.drop_drop, hdata]
          rfl
        rw [if_neg (by decide), if_pos rfl, if_neg (by omega),
          ih (sequence + 1) (offset + 2) hrest hnext (by omega)]
        simp [hread, bind, Except.bind, Nat.add_assoc]

end ReceiveDeltas

section Packet

theorem encodeStatusChunksFrom_length_le (fuel : ℕ) (symbols : List ℕ) :
    (encodeStatusChunksFrom fuel symbols).length ≤ fuel := by
  induction fuel generalizing symbols with
  | zero => simp [encodeStatusChunksFrom]
  | succ fuel ih =>
      rcases symbols with _ | ⟨symbol, rest⟩
      · simp [encodeStatusChunksFrom]
      · simp only [encodeStatusChunksFrom]
        split_ifs <;> simpa using ih _

theorem flatMap_u16Bytes_length (chunks : List UInt16) :
    (chunks.flatMap u16Bytes).length = chunks.length * 2 := by
  induction chunks with
  | nil => rfl
  | cons chunk chunks ih =>
      rw [List.flatMap_cons, List.length_append, ih, u16Bytes_length, List.length_cons]
      omega

theorem paddingBytes_length (size : ℕ) : (paddingBytes size).length = size := by
  rw [paddingBytes]
  split_ifs with h
  · exact h.symm
  · simp only [List.length_append, List.length_replicate, List.length_singleton]
    omega

theorem unpaddedPacketSize_le (deltaSizes : List ℕ) :
    unpaddedPacketSize deltaSizes ≤ encodedPacketSize deltaSizes ∧
      encodedPacketSize deltaSizes ≤ unpaddedPacketSize deltaSizes + 3 ∧
      encodedPacketSize deltaSizes % 4 = 0 := by
  simp only [encodedPacketSize]
  omega

theorem unpaddedPacketSize_bound (ticks : List (Option ℤ)) :
    unpaddedPacketSize (ticks.map statusDeltaSize) ≤ headerSize + ticks.length * 4 := by
  have hchunks : (encodeStatusChunks (ticks.map statusDeltaSize)).length ≤ ticks.length := by
    simpa [encodeStatusChunks] using
      encodeStatusChunksFrom_length_le (ticks.map statusDeltaSize).length _
  have hsum : (ticks.map statusDeltaSize).sum ≤ ticks.length * 2 := by
    have h := List.sum_le_card_nsmul (ticks.map statusDeltaSize) 2 (by
      simp only [List.mem_map, forall_exists_index, and_imp, forall_apply_eq_imp_iff₂]
      exact fun delta _ => statusDeltaSize_le delta)
    simpa using h
  simp only [unpaddedPacketSize]
  omega

@[simp] theorem transportFeedbackHeader_length (packetSize paddingSize : ℕ)
    (senderSsrc mediaSsrc : UInt32) (baseSequence : UInt16) (statusCount : ℕ)
    (referenceTime : UInt32) (feedbackPacketCount : UInt8) :
    (transportFeedbackHeader packetSize paddingSize senderSsrc mediaSsrc baseSequence statusCount
      referenceTime feedbackPacketCount).length = 20 := rfl

section Header
variable (packetSize paddingSize : ℕ) (senderSsrc mediaSsrc : UInt32) (baseSequence : UInt16)
  (statusCount : ℕ) (referenceTime : UInt32) (feedbackPacketCount : UInt8) (body : List UInt8)

/-- What the parser reads out of the first twenty bytes. -/
theorem transportFeedbackHeader_fields :
    let data := transportFeedbackHeader packetSize paddingSize senderSsrc mediaSsrc baseSequence
      statusCount referenceTime feedbackPacketCount ++ body
    byteAt data 0 = (if paddingSize ≠ 0 then 175 else 143) ∧
      byteAt data 1 = transportFeedbackPacketType.toNat ∧
      (readU16 data 2).toNat = (packetSize / 4 - 1) % 65536 ∧
      readU32 data 4 = senderSsrc ∧ readU32 data 8 = mediaSsrc ∧
      readU16 data 12 = baseSequence ∧ (readU16 data 14).toNat = statusCount % 65536 ∧
      (readU24 data 16).toNat = referenceTime.toNat % 16777216 ∧
      data.getD 19 0 = feedbackPacketCount := by
  refine ⟨?_, rfl, ?_, ?_, ?_, ?_, ?_, ?_, rfl⟩
  · by_cases h : paddingSize = 0 <;> simp [transportFeedbackHeader, h] <;> rfl
  · rw [← Nat.add_zero 2, ← readU16_drop]
    exact (congrArg UInt16.toNat (readU16_u16Bytes _ _)).trans (UInt16.toNat_ofNat' ..)
  · rw [← Nat.add_zero 4, ← readU32_drop]
    exact readU32_u32Bytes senderSsrc _
  · rw [← Nat.add_zero 8, ← readU32_drop]
    exact readU32_u32Bytes mediaSsrc _
  · rw [← Nat.add_zero 12, ← readU16_drop]
    exact readU16_u16Bytes baseSequence _
  · rw [← Nat.add_zero 14, ← readU16_drop]
    exact (congrArg UInt16.toNat (readU16_u16Bytes _ _)).trans (UInt16.toNat_ofNat' ..)
  · rw [← Nat.add_zero 16, ← readU24_drop]
    exact readU24_u24Bytes referenceTime _

end Header

theorem byteAt_last_paddingBytes {size : ℕ} (hpos : 0 < size) (hlt : size < 256)
    (front : List UInt8) :
    byteAt (front ++ paddingBytes size) ((front ++ paddingBytes size).length - 1) = size := by
  have hindex : (front ++ paddingBytes size).length - 1 = front.length + (size - 1) := by
    rw [List.length_append, paddingBytes_length]
    omega
  rw [hindex, byteAt_append_right, paddingBytes, if_neg (Nat.ne_of_gt hpos)]
  simp only [byteAt, List.getD_eq_getElem?_getD]
  rw [List.getElem?_append_right (by simp)]
  simp only [List.length_replicate, Nat.sub_self, List.getElem?_cons_zero, Option.getD_some,
    UInt8.toNat_ofNat']
  exact Nat.mod_eq_of_lt hlt

/-- The padding of a written packet ends where its content ends. -/
theorem effectivePacketSize_of_padding {front : List UInt8} {paddingSize : ℕ}
    (hfront : headerSize ≤ front.length) (hlt : paddingSize < 256)
    (hflag : byteAt (front ++ paddingBytes paddingSize) 0 =
      if paddingSize ≠ 0 then 175 else 143) :
    effectivePacketSize (front ++ paddingBytes paddingSize) = .ok front.length := by
  rw [effectivePacketSize, hflag]
  by_cases hzero : paddingSize = 0
  · rw [if_neg (not_not.mpr hzero), if_neg (by decide)]
    simp [hzero, paddingBytes]
  · have hpos : 0 < paddingSize := Nat.pos_of_ne_zero hzero
    rw [if_pos hzero, if_pos (by decide)]
    simp only [byteAt_last_paddingBytes hpos hlt]
    rw [List.length_append, paddingBytes_length, if_neg (by omega), Nat.add_sub_cancel]

/-- The checks of the parser in order, for data whose parts are known. -/
theorem parse_of_parts {data : List UInt8} {effectiveSize offset : ℕ} {sizes : List ℕ}
    {statuses : List RtcpTransportFeedbackStatus} (hsize : headerSize ≤ data.length)
    (hmod : data.length % 4 = 0)
    (hflag : byteAt data 0 / 64 = rtcpVersion ∧ byteAt data 0 % 32 = transportFeedbackFmt)
    (htype : byteAt data 1 = transportFeedbackPacketType.toNat)
    (hdeclared : ((readU16 data 2).toNat + 1) * 4 = data.length)
    (heffective : effectivePacketSize data = .ok effectiveSize)
    (hcount : (readU16 data 14).toNat ≤ maximumParsedStatusesPerFeedback)
    (hdecode : decodeStatusChunks data effectiveSize (readU16 data 14).toNat
      (readU16 data 14).toNat headerSize [] = .ok (offset, sizes))
    (hread : readStatuses data effectiveSize sizes (readU16 data 12) offset =
      .ok (statuses, effectiveSize)) :
    parseRtcpTransportFeedback data =
      .ok
        { senderSsrc := readU32 data 4
          mediaSsrc := readU32 data 8
          baseSequenceNumber := readU16 data 12
          packetStatusCount := readU16 data 14
          referenceTime := readU24 data 16
          feedbackPacketCount := data.getD 19 0
          statuses } := by
  have htrailing : trailingBytesAreZero data effectiveSize effectiveSize = true := by
    simp [trailingBytesAreZero]
  rw [parseRtcpTransportFeedback, if_neg (by omega), if_neg (by omega), if_neg (by omega),
    heffective]
  simp only [bind, Except.bind]
  rw [if_neg (by omega), hdecode]
  simp only [hread, htrailing, if_true]

section Written
variable (senderSsrc mediaSsrc : UInt32) (baseSequence : UInt16) (referenceTime : UInt32)
  (feedbackPacketCount : UInt8) (ticks : List (Option ℤ))

/-- The packet written for one optional receive delta for each status. -/
def feedbackPacketOf : List UInt8 :=
  encodeTransportFeedbackPacket senderSsrc mediaSsrc baseSequence referenceTime
    feedbackPacketCount (ticks.map statusDeltaSize) (ticks.filterMap id)

/-- The size of the packet before its padding. -/
def contentSize : ℕ := unpaddedPacketSize (ticks.map statusDeltaSize)

def paddingSize : ℕ := encodedPacketSize (ticks.map statusDeltaSize) - contentSize ticks

def statusChunkBytes : List UInt8 :=
  (encodeStatusChunks (ticks.map statusDeltaSize)).flatMap u16Bytes

def receiveDeltaBytes : List UInt8 :=
  deltaBytes (ticks.map statusDeltaSize) (ticks.filterMap id)

theorem feedbackPacketOf_eq :
    feedbackPacketOf senderSsrc mediaSsrc baseSequence referenceTime feedbackPacketCount ticks =
      transportFeedbackHeader (encodedPacketSize (ticks.map statusDeltaSize)) (paddingSize ticks)
          senderSsrc mediaSsrc baseSequence (ticks.map statusDeltaSize).length
          (referenceTime &&& 0x00FFFFFF) feedbackPacketCount ++
        (statusChunkBytes ticks ++ (receiveDeltaBytes ticks ++ paddingBytes (paddingSize ticks))) :=
  rfl

theorem feedbackPacketOf_length :
    (feedbackPacketOf senderSsrc mediaSsrc baseSequence referenceTime feedbackPacketCount
      ticks).length = encodedPacketSize (ticks.map statusDeltaSize) := by
  have h := unpaddedPacketSize_le (ticks.map statusDeltaSize)
  simp only [feedbackPacketOf_eq, List.length_append, transportFeedbackHeader_length,
    statusChunkBytes, receiveDeltaBytes, flatMap_u16Bytes_length, deltaBytes_length,
    paddingBytes_length, paddingSize, contentSize]
  simp only [unpaddedPacketSize, headerSize] at h ⊢
  omega

theorem effectivePacketSize_feedbackPacketOf :
    effectivePacketSize (feedbackPacketOf senderSsrc mediaSsrc baseSequence referenceTime
      feedbackPacketCount ticks) = .ok (contentSize ticks) := by
  have hpadding := unpaddedPacketSize_le (ticks.map statusDeltaSize)
  have hflag := (transportFeedbackHeader_fields (encodedPacketSize (ticks.map statusDeltaSize))
    (paddingSize ticks) senderSsrc mediaSsrc baseSequence (ticks.map statusDeltaSize).length
    (referenceTime &&& 0x00FFFFFF) feedbackPacketCount
    (statusChunkBytes ticks ++ (receiveDeltaBytes ticks ++ paddingBytes (paddingSize ticks)))).1
  rw [feedbackPacketOf_eq]
  simp only [← List.append_assoc] at hflag ⊢
  rw [effectivePacketSize_of_padding _ _ hflag]
  · simp only [List.length_append, transportFeedbackHeader_length, statusChunkBytes,
      receiveDeltaBytes, flatMap_u16Bytes_length, deltaBytes_length]
    rfl
  · simp only [List.length_append, transportFeedbackHeader_length, headerSize]
    omega
  · simp only [paddingSize, contentSize]
    omega

/-- The parser accepts every written packet and returns its fields. -/
theorem parse_feedbackPacketOf (hfits : ∀ delta, some delta ∈ ticks → FitsI16 delta)
    (hcount : ticks.length ≤ maximumParsedStatusesPerFeedback) :
    parseRtcpTransportFeedback (feedbackPacketOf senderSsrc mediaSsrc baseSequence referenceTime
        feedbackPacketCount ticks) =
      .ok
        { senderSsrc
          mediaSsrc
          baseSequenceNumber := baseSequence
          packetStatusCount := UInt16.ofNat ticks.length
          referenceTime := referenceTime &&& 0x00FFFFFF
          feedbackPacketCount
          statuses := statusesFrom baseSequence ticks } := by
  obtain ⟨hflag, htype, hdeclared, hsender, hmedia, hbase, hstatuses, hreference, hfeedback⟩ :=
    transportFeedbackHeader_fields (encodedPacketSize (ticks.map statusDeltaSize))
      (paddingSize ticks) senderSsrc mediaSsrc baseSequence (ticks.map statusDeltaSize).length
      (referenceTime &&& 0x00FFFFFF) feedbackPacketCount
      (statusChunkBytes ticks ++ (receiveDeltaBytes ticks ++ paddingBytes (paddingSize ticks)))
  rw [← feedbackPacketOf_eq senderSsrc mediaSsrc baseSequence referenceTime feedbackPacketCount
    ticks] at hflag htype hdeclared hsender hmedia hbase hstatuses hreference hfeedback
  have hlength := feedbackPacketOf_length senderSsrc mediaSsrc baseSequence referenceTime
    feedbackPacketCount ticks
  have heffective := effectivePacketSize_feedbackPacketOf senderSsrc mediaSsrc baseSequence
    referenceTime feedbackPacketCount ticks
  have hdrop : (feedbackPacketOf senderSsrc mediaSsrc baseSequence referenceTime
      feedbackPacketCount ticks).drop 20 = statusChunkBytes ticks ++ (receiveDeltaBytes ticks ++
        paddingBytes (paddingSize ticks)) := rfl
  have hbound := unpaddedPacketSize_bound ticks
  obtain ⟨hle, hpadding, hmod⟩ := unpaddedPacketSize_le (ticks.map statusDeltaSize)
  have hcontent : contentSize ticks = 20 +
      (encodeStatusChunks (ticks.map statusDeltaSize)).length * 2 +
        (ticks.map statusDeltaSize).sum := rfl
  simp only [headerSize, maximumParsedStatusesPerFeedback, contentSize] at hbound hcount hcontent
  generalize feedbackPacketOf senderSsrc mediaSsrc baseSequence referenceTime
    feedbackPacketCount ticks = data at *
  have hstatusCount : (readU16 data 14).toNat = ticks.length := by
    rw [hstatuses, List.length_map]
    omega
  have hsmall : ∀ s ∈ ticks.map statusDeltaSize, s ≤ 2 := by
    simp only [List.mem_map, forall_exists_index, and_imp, forall_apply_eq_imp_iff₂]
    exact fun delta _ => statusDeltaSize_le delta
  have hdecode : decodeStatusChunks data (contentSize ticks) (readU16 data 14).toNat
      (readU16 data 14).toNat headerSize [] =
        .ok (20 + (encodeStatusChunks (ticks.map statusDeltaSize)).length * 2,
          ticks.map statusDeltaSize) := by
    rw [hstatusCount]
    exact decodeStatusChunks_encode ticks.length hsmall (le_refl _) (by simp) hdrop
      (by rw [contentSize, hcontent]; simp only [headerSize, encodeStatusChunks]; omega) (by simp)
  have hdeltas : data.drop (20 + (encodeStatusChunks (ticks.map statusDeltaSize)).length * 2) =
      receiveDeltaBytes ticks ++ paddingBytes (paddingSize ticks) := by
    rw [← List.drop_drop, hdrop]
    exact List.drop_left' (flatMap_u16Bytes_length _)
  have hread := readStatuses_deltaBytes (readU16 data 12) _ hfits hdeltas
    (show _ ≤ contentSize ticks from le_of_eq hcontent.symm)
  rw [← hcontent] at hread
  have hparse := parse_of_parts (by simp only [headerSize]; omega) (by omega)
    (by rw [hflag]; split_ifs <;> decide) htype (by omega) heffective
    (by simp only [maximumParsedStatusesPerFeedback]; omega) hdecode hread
  have hcountWord : readU16 data 14 = UInt16.ofNat ticks.length := by
    apply UInt16.toNat_inj.mp
    rw [hstatusCount, UInt16.toNat_ofNat']
    omega
  have hreferenceWord : readU24 data 16 = referenceTime &&& 0x00FFFFFF := by
    apply UInt32.toNat_inj.mp
    rw [hreference, UInt32.toNat_and]
    exact Nat.mod_eq_of_lt (lt_of_le_of_lt Nat.and_le_right (by decide))
  rw [hparse, hsender, hmedia, hbase, hcountWord, hreferenceWord, hfeedback]

end Written

end Packet

end SimpleWebrtc.TransportFeedbackCodec
