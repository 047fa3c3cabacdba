import SimpleWebrtc.Library.Fallible
import SimpleWebrtc.RewrittenPacket

/-!
# Header extensions patched in place

A retransmission gets its transport-wide number by overwriting the value of one
element in the finished packet. The element is located by the lookup, and the
result is read by the parser: replacing the value of the first element with an
id by one of the same length leaves every other element where it was.
-/
namespace SimpleWebrtc.RtpHeaderExtension
open Library Library.Bytes

/-- A reader hands out the bytes of a value as they are. -/
structure ElementReader.Patchable (next : ElementReader) : Prop where
  padding : ∀ header rest rest', next header rest = .ok (none, rest') → rest' = rest ∧
    ∀ other, next header other = .ok (none, other)
  element : ∀ header rest element rest', next header rest = .ok (some element, rest') →
    ∃ skipped, rest = skipped ++ element.value ++ rest' ∧ ∀ value other,
      value.length = element.value.length →
        next header (skipped ++ value ++ other) = .ok (some ⟨element.id, value⟩, other)

theorem oneByteElement_patchable : ElementReader.Patchable oneByteElement where
  padding := by
    intro header rest rest' h
    simp only [oneByteElement] at h
    split_ifs at h with hzero
    · simp_all [oneByteElement]
    · cases h
  element := by
    intro header rest element rest' h
    simp only [oneByteElement] at h
    split_ifs at h with hzero hreserved hshort
    · cases h
    · cases h
      refine ⟨[], by simp, ?_⟩
      intro value other hlen
      rw [List.length_take, Nat.min_eq_left (Nat.le_of_not_lt hshort)] at hlen
      have hfit : ¬(value ++ other).length < value.length := by
        rw [List.length_append]
        omega
      simp only [oneByteElement, if_neg hzero, if_neg hreserved, List.nil_append,
        ← hlen, if_neg hfit, List.take_left, List.drop_left]

theorem twoByteElement_patchable : ElementReader.Patchable twoByteElement where
  padding := by
    intro header rest rest' h
    unfold twoByteElement at h
    split_ifs at h with hzero
    · simp_all [twoByteElement]
    · cases rest with
      | nil => cases h
      | cons size rest =>
          simp only at h
          split_ifs at h
          cases h
  element := by
    intro header rest element rest' h
    unfold twoByteElement at h
    split_ifs at h with hzero
    · cases h
    · cases rest with
      | nil => cases h
      | cons size rest =>
          simp only at h
          split_ifs at h with hshort
          cases h
          refine ⟨[size], by simp, ?_⟩
          intro value other hlen
          rw [List.length_take, Nat.min_eq_left (Nat.le_of_not_lt hshort)] at hlen
          have hfit : ¬(value ++ other).length < value.length := by
            rw [List.length_append]
            omega
          simp only [twoByteElement, if_neg hzero, List.cons_append, List.nil_append,
            ← hlen, if_neg hfit, List.take_left, List.drop_left]

theorem profileReader_patchable {profile : UInt16} {next : ElementReader}
    (h : RtpPacket.profileReader profile = some next) : next.Patchable := by
  unfold RtpPacket.profileReader at h
  split_ifs at h
  · obtain rfl := Option.some.inj h
    exact oneByteElement_patchable
  · obtain rfl := Option.some.inj h
    exact twoByteElement_patchable

/-- The bytes around the value of an element, with the elements around it. Any other value of that
length is read in its place. -/
structure SplitAt (next : ElementReader) (fuel : ℕ) (payload : List UInt8)
    (elements : List ParsedHeaderExtension) (e : ParsedHeaderExtension) (before after : List UInt8)
    (first last : List ParsedHeaderExtension) : Prop where
  payload : payload = before ++ e.value ++ after
  elements : elements = first ++ e :: last
  fresh : ∀ x ∈ first, x.id ≠ e.id
  patched : ∀ value, value.length = e.value.length →
    walk next fuel (before ++ value ++ after) = .ok (first ++ ⟨e.id, value⟩ :: last)

/-- The lookup points at the value of the first element with the id. -/
theorem findElement_split {next : ElementReader} (hnext : next.Patchable) {extensionId : UInt8}
    {fuel : ℕ} {payload : List UInt8} {elements : List ParsedHeaderExtension}
    (h : walk next fuel payload = .ok elements) {e : ParsedHeaderExtension}
    (hfind : elements.find? (fun e => decide (e.id = extensionId)) = some e) :
    ∃ before after first last, SplitAt next fuel payload elements e before after first last ∧
      ∀ stop, findElement next extensionId stop fuel payload =
        .ok (some ⟨stop - after.length - e.value.length, e.value.length⟩) := by
  induction fuel generalizing payload elements with
  | zero => cases payload <;> simp_all [walk]
  | succ fuel ih =>
      cases payload with
      | nil =>
          simp only [walk, Except.ok.injEq] at h
          subst h
          cases hfind
      | cons header rest =>
          simp only [walk] at h
          cases hread : next header rest with
          | error message => simp [hread] at h
          | ok out =>
              obtain ⟨element, rest'⟩ := out
              cases element with
              | none =>
                  simp only [hread] at h
                  obtain ⟨rfl, hany⟩ := hnext.padding _ _ _ hread
                  obtain ⟨before, after, first, last, hsplit, hresult⟩ := ih h hfind
                  refine ⟨header :: before, after, first, last, ⟨?_, hsplit.elements,
                    hsplit.fresh, ?_⟩, ?_⟩
                  · rw [hsplit.payload]
                    rfl
                  · intro value hlen
                    simp only [List.cons_append, walk, hany]
                    exact hsplit.patched value hlen
                  · intro stop
                    simp only [findElement, hread]
                    exact hresult stop
              | some element =>
                  simp only [hread] at h
                  obtain ⟨tail, htail, rfl⟩ := map_ok.mp h
                  obtain ⟨skipped, rfl, hpatch⟩ := hnext.element _ _ _ _ hread
                  by_cases hid : element.id = extensionId
                  · rw [List.find?_cons, decide_eq_true hid] at hfind
                    obtain rfl := Option.some.inj hfind
                    refine ⟨header :: skipped, rest', [], tail, ⟨?_, rfl, by simp, ?_⟩, ?_⟩
                    · rfl
                    · intro value hlen
                      simp only [List.cons_append, walk, hpatch value rest' hlen, htail]
                      rfl
                    · intro stop
                      simp only [findElement, hread, if_pos hid]
                  · rw [List.find?_cons, decide_eq_false hid] at hfind
                    obtain ⟨before, after, first, last, hsplit, hresult⟩ := ih htail hfind
                    have hfound := List.find?_some hfind
                    rw [decide_eq_true_eq] at hfound
                    refine ⟨header :: (skipped ++ element.value ++ before), after,
                      element :: first, last, ⟨?_, ?_, ?_, ?_⟩, ?_⟩
                    · rw [hsplit.payload]
                      simp only [List.cons_append, List.append_assoc]
                    · rw [hsplit.elements]
                      rfl
                    · intro x hx
                      rcases List.mem_cons.mp hx with rfl | hx
                      · rwa [hfound]
                      · exact hsplit.fresh x hx
                    · intro value hlen
                      have hkept := hpatch element.value (before ++ value ++ after) rfl
                      have hassoc : skipped ++ element.value ++ before ++ value ++ after =
                          skipped ++ element.value ++ (before ++ value ++ after) := by
                        simp only [List.append_assoc]
                      simp only [List.cons_append, walk]
                      rw [hassoc, hkept]
                      simp only [hsplit.patched value hlen]
                      rfl
                    · intro stop
                      simp only [findElement, hread, if_neg hid]
                      exact hresult stop

end SimpleWebrtc.RtpHeaderExtension

namespace SimpleWebrtc.RtpPacket
open Library Library.Bytes RtpHeaderExtension RewrittenExtensions

/-- An extension block with a number written over the value of an element, at an offset. -/
structure Stamped (extensionId : UInt8) (number : UInt16) (block block' : List UInt8)
    (elements elements' : List ParsedHeaderExtension) (offset : ℕ) : Prop where
  length : block'.length = block.length
  read : ExtensionBlock block' elements'
  others : elements'.filter (fun e => decide (e.id ≠ extensionId)) =
    elements.filter fun e => decide (e.id ≠ extensionId)
  value : valueAt elements' extensionId = some (u16Bytes number)
  bytes : ∀ i, byteAt block' i ≠ byteAt block i → offset ≤ i ∧ i < offset + 2
  found : ∀ head tail, Framed head block elements →
    findRtpHeaderExtension (head ++ block ++ tail) extensionId =
      .ok (some ⟨head.length + offset, 2⟩)
  written : ∀ head tail, writeU16 (head ++ block ++ tail) (head.length + offset) number =
    head ++ block' ++ tail

theorem byteAt_replaced {before value value' after : List UInt8}
    (hlen : value'.length = value.length) {i : ℕ}
    (h : byteAt (before ++ value' ++ after) i ≠ byteAt (before ++ value ++ after) i) :
    before.length ≤ i ∧ i < before.length + value.length := by
  by_contra hout
  apply h
  by_cases hleft : i < before.length
  · rw [List.append_assoc, List.append_assoc, byteAt_append_left hleft,
      byteAt_append_left hleft]
  · obtain ⟨j, rfl⟩ : ∃ j, i = (before ++ value).length + j := by
      refine ⟨i - (before ++ value).length, ?_⟩
      rw [List.length_append]
      omega
    have hsame : (before ++ value).length = (before ++ value').length := by
      rw [List.length_append, List.length_append, hlen]
    rw [byteAt_append_right, hsame, byteAt_append_right]

theorem writeU16_replaced {before value after : List UInt8} (hlen : value.length = 2)
    (number : UInt16) : writeU16 (before ++ value ++ after) before.length number =
      before ++ u16Bytes number ++ after := by
  have hat := writeU16_append_right before (value ++ after) 0 number
  rw [Nat.add_zero] at hat
  rw [List.append_assoc, hat, List.append_assoc]
  obtain ⟨a, b, rfl⟩ := List.length_eq_two.mp hlen
  rfl

theorem exists_stamped {block : List UInt8} {elements : List ParsedHeaderExtension}
    (h : ExtensionBlock block elements) {extensionId : UInt8} (hid : extensionId ≠ 0)
    {value : List UInt8} (hvalue : valueAt elements extensionId = some value)
    (htwo : value.length = 2) (number : UInt16) :
    ∃ block' elements' offset,
      Stamped extensionId number block block' elements elements' offset := by
  obtain ⟨h4, -, -, -⟩ := block_at [] [] h
  obtain ⟨hlength, next, hnext, hwalk⟩ := h
  obtain ⟨e, hfind, rfl⟩ := Option.map_eq_some_iff.mp hvalue
  have heid : e.id = extensionId := by simpa using List.find?_some hfind
  obtain ⟨before, after, first, last, hsplit, hlookup⟩ :=
    findElement_split (profileReader_patchable hnext) hwalk hfind
  set word := block.take 4 with hword
  have hwordLength : word.length = 4 := by
    rw [hword, List.length_take]
    omega
  have hparts : block = (word ++ before) ++ e.value ++ after := by
    rw [List.append_assoc, List.append_assoc, ← List.append_assoc before, ← hsplit.payload, hword,
      List.take_append_drop]
  have hoffset : (word ++ before).length = 4 + before.length := by
    rw [List.length_append, hwordLength]
  have hlen : ((word ++ before) ++ u16Bytes number ++ after).length = block.length := by
    conv_rhs => rw [hparts]
    simp only [List.length_append, htwo, u16Bytes_length]
  have hdrop : ((word ++ before) ++ u16Bytes number ++ after).drop 4 =
      before ++ u16Bytes number ++ after := by
    rw [List.append_assoc, List.append_assoc, ← hwordLength, List.drop_left, List.append_assoc]
  have hfront : ∀ i, i + 1 < 4 → readU16 ((word ++ before) ++ u16Bytes number ++ after) i =
      readU16 block i := by
    intro i hi
    conv_rhs => rw [hparts]
    rw [List.append_assoc, List.append_assoc, readU16_append_left (by omega), List.append_assoc,
      List.append_assoc, readU16_append_left (by omega)]
  refine ⟨(word ++ before) ++ u16Bytes number ++ after, first ++ ⟨e.id, u16Bytes number⟩ :: last,
    (word ++ before).length, hlen, ⟨?_, next, ?_, ?_⟩, ?_, ?_, ?_, ?_, ?_⟩
  · rw [hlen, hfront 2 (by omega), hlength]
  · rw [hfront 0 (by omega), hnext]
  · have hfuel : ((word ++ before ++ u16Bytes number ++ after).drop 4).length =
        (block.drop 4).length := by
      rw [List.length_drop, List.length_drop, hlen]
    rw [hfuel, hdrop]
    exact hsplit.patched _ (by rw [u16Bytes_length, htwo])
  · rw [hsplit.elements]
    simp [heid]
  · have hnone : (first.find? fun x => decide (x.id = extensionId)) = none := by
      rw [List.find?_eq_none]
      intro x hx
      rw [decide_eq_true_eq, ← heid]
      exact hsplit.fresh x hx
    simp [valueAt, hnone, heid]
  · intro i hi
    conv at hi =>
      rhs
      rw [hparts]
    rw [← htwo]
    exact byteAt_replaced (by rw [u16Bytes_length, htwo]) hi
  · intro head tail hframed
    have hx : hasExtension head = true := by
      by_contra hno
      have hblock := hframed.block
      rw [if_neg hno] at hblock
      rw [hblock.2] at hfind
      cases hfind
    obtain ⟨other, hother, -, hresult⟩ := hframed.find_eq hx tail hid
    rw [hnext] at hother
    obtain rfl := Option.some.inj hother
    rcases hresult with hresult | ⟨-, hnone⟩
    · have hplace : head.length + block.length - after.length - e.value.length =
          head.length + (word ++ before).length := by
        have hsum := congrArg List.length hparts
        simp only [List.length_append] at hsum ⊢
        omega
      rw [hresult, hlookup, hplace, htwo]
    · rw [hnone] at hfind
      cases hfind
  · intro head tail
    conv_lhs => rw [hparts]
    have hgroup : head ++ (word ++ before ++ e.value ++ after) ++ tail =
        (head ++ (word ++ before)) ++ e.value ++ (after ++ tail) := by
      simp only [List.append_assoc]
    have hat : head.length + (word ++ before).length = (head ++ (word ++ before)).length :=
      List.length_append.symm
    rw [hgroup, hat, writeU16_replaced htwo]
    simp only [List.append_assoc]

end SimpleWebrtc.RtpPacket
