import SimpleWebrtc.VideoKeyframeDetector

/-!
# Complete keyframes

The tracker remembers one open keyframe of a source by what its next packet has
to be. That is the same as looking back over the packets of the source: the
frame is open exactly when it is the tail of what was seen.
-/
namespace SimpleWebrtc.CompleteKeyframes
open Library Library.Text VideoKeyframeDetector

/-- A packet is the next one of the keyframe that is open for its source. -/
def continues (t : VideoKeyframeTracker) (view : RtpPayloadView) : Bool :=
  decide (t.activeFramesBySsrc.find? view.ssrc = some ⟨view.timestamp, view.sequenceNumber⟩)

structure SeenPacket where
  sequenceNumber : UInt16
  timestamp : UInt32
  marker : Bool
  keyframeStart : Bool
  continued : Bool
deriving Repr, DecidableEq

def seenAs (t : VideoKeyframeTracker) (view : RtpPayloadView) : SeenPacket where
  sequenceNumber := view.sequenceNumber
  timestamp := view.timestamp
  marker := view.marker
  keyframeStart := decide ((isVp8KeyframeStart view.payload).toOption = some true)
  continued := continues t view

/-- The packet of a source that an observation without an error has seen. -/
def seenPacket (ssrc : UInt32) (t : VideoKeyframeTracker) (codec : Text)
    (rtpPacket : List UInt8) : List SeenPacket :=
  match (t.observe codec rtpPacket).1, parseRtpPayloadView rtpPacket with
  | .ok _, .ok view => if view.ssrc = ssrc then [seenAs t view] else []
  | _, _ => []

def observeAll (t : VideoKeyframeTracker) (packets : List (Text × List UInt8)) :
    VideoKeyframeTracker :=
  packets.foldl (fun t packet => (t.observe packet.1 packet.2).2) t

/-- The packets of a source seen while a tracker observes, each with the tracker before it. -/
def seen (ssrc : UInt32) : VideoKeyframeTracker → List (Text × List UInt8) → List SeenPacket
  | _, [] => []
  | t, packet :: packets =>
      seenPacket ssrc t packet.1 packet.2 ++ seen ssrc (t.observe packet.1 packet.2).2 packets

/-- Packets of one timestamp, numbered up to one number, from the start of a keyframe on. -/
structure KeyframeTo (frame : List SeenPacket) (sequenceNumber : UInt16) (timestamp : UInt32) :
    Prop where
  numbers : ∀ i (h : i < frame.length),
    frame[i].sequenceNumber = sequenceNumber - UInt16.ofNat (frame.length - 1 - i)
  timestamps : ∀ p ∈ frame, p.timestamp = timestamp
  begins : ∃ first, frame.head? = some first ∧ first.keyframeStart = true ∧ first.continued = false
  unmarked : ∀ p ∈ frame.dropLast, p.marker = false

/-- A keyframe whose last packet, and no other, carries the marker. -/
structure CompleteKeyframe (frame : List SeenPacket) (sequenceNumber : UInt16)
    (timestamp : UInt32) : Prop extends KeyframeTo frame sequenceNumber timestamp where
  marked : ∃ last, frame.getLast? = some last ∧ last.marker = true

theorem KeyframeTo.ne_nil {frame : List SeenPacket} {n : UInt16} {timestamp : UInt32}
    (h : KeyframeTo frame n timestamp) : frame ≠ [] := by
  rintro rfl
  obtain ⟨first, hfirst, -⟩ := h.begins
  cases hfirst

theorem keyframeTo_singleton {p : SeenPacket} {n : UInt16} {timestamp : UInt32} :
    KeyframeTo [p] n timestamp ↔
      p.sequenceNumber = n ∧ p.timestamp = timestamp ∧ p.keyframeStart = true ∧
        p.continued = false := by
  constructor
  · intro h
    obtain ⟨first, hfirst, hstart, hcontinued⟩ := h.begins
    obtain rfl : p = first := Option.some.inj hfirst
    have hnumber := h.numbers 0 Nat.one_pos
    have hword : n - UInt16.ofNat ([p].length - 1 - 0) = n := UInt16.sub_zero n
    rw [hword] at hnumber
    exact ⟨hnumber, h.timestamps p (List.mem_singleton_self p), hstart, hcontinued⟩
  · rintro ⟨rfl, rfl, hstart, hcontinued⟩
    constructor
    case numbers =>
      intro i hi
      obtain rfl : i = 0 := by simpa using hi
      exact (UInt16.sub_zero _).symm
    case timestamps =>
      intro q hq
      rw [List.mem_singleton.mp hq]
    case begins => exact ⟨p, rfl, hstart, hcontinued⟩
    case unmarked =>
      intro q hq
      cases hq

theorem number_before (n : UInt16) (distance : ℕ) :
    n - 1 - UInt16.ofNat distance = n - UInt16.ofNat (distance + 1) := by
  apply UInt16.toNat_inj.mp
  have hone : UInt16.toNat 1 = 1 := rfl
  simp only [UInt16.toNat_sub, UInt16.toNat_ofNat', hone]
  omega

/-- One more packet at the end of a frame that has begun. -/
theorem keyframeTo_append {frame : List SeenPacket} {p : SeenPacket} {n : UInt16}
    {timestamp : UInt32} (hne : frame ≠ []) :
    KeyframeTo (frame ++ [p]) n timestamp ↔
      (KeyframeTo frame (n - 1) timestamp ∧ ∀ q ∈ frame, q.marker = false) ∧
        p.sequenceNumber = n ∧ p.timestamp = timestamp := by
  have hpos : 0 < frame.length := List.length_pos_of_ne_nil hne
  have hhead : (frame ++ [p]).head? = frame.head? := List.head?_append_of_ne_nil _ hne
  constructor
  · intro h
    have hlast := h.numbers frame.length (by simp)
    have hword : n - UInt16.ofNat ((frame ++ [p]).length - 1 - frame.length) = n := by
      rw [List.length_append, List.length_singleton, Nat.add_sub_cancel, Nat.sub_self]
      exact UInt16.sub_zero n
    rw [hword, List.getElem_concat_length rfl] at hlast
    have hunmarked : ∀ q ∈ frame, q.marker = false := by
      intro q hq
      apply h.unmarked
      rwa [List.dropLast_concat]
    refine ⟨⟨?_, hunmarked⟩, hlast, h.timestamps p (by simp)⟩
    constructor
    case numbers =>
      intro i hi
      have hnumber := h.numbers i (by
        rw [List.length_append]
        omega)
      rw [List.getElem_append_left hi] at hnumber
      rw [hnumber, number_before]
      congr 2
      rw [List.length_append, List.length_singleton]
      omega
    case timestamps =>
      intro q hq
      exact h.timestamps q (List.mem_append_left _ hq)
    case begins =>
      rw [← hhead]
      exact h.begins
    case unmarked =>
      intro q hq
      exact hunmarked q ((List.dropLast_sublist frame).subset hq)
  · rintro ⟨⟨h, hunmarked⟩, rfl, rfl⟩
    constructor
    case numbers =>
      intro i hi
      rw [List.length_append, List.length_singleton] at hi ⊢
      rcases Nat.lt_or_ge i frame.length with hlt | hge
      · rw [List.getElem_append_left hlt, h.numbers i hlt, number_before]
        congr 2
        omega
      · obtain rfl : i = frame.length := by omega
        rw [List.getElem_concat_length rfl, Nat.add_sub_cancel, Nat.sub_self]
        exact (UInt16.sub_zero _).symm
    case timestamps =>
      intro q hq
      rcases List.mem_append.mp hq with hq | hq
      · exact h.timestamps q hq
      · rw [List.mem_singleton.mp hq]
    case begins =>
      rw [hhead]
      exact h.begins
    case unmarked =>
      rw [List.dropLast_concat]
      exact hunmarked

theorem getLast?_of_append_eq {packets earlier frame : List SeenPacket} {p : SeenPacket}
    (hne : frame ≠ []) (h : packets ++ [p] = earlier ++ frame) : frame.getLast? = some p := by
  have hlast := congrArg List.getLast? h
  rw [List.getLast?_concat, List.getLast?_append_of_ne_nil _ hne] at hlast
  exact hlast.symm

/-- The open frame of a source is the unmarked tail of its packets. -/
def Follows (active : Option FrameState) (packets : List SeenPacket) : Prop :=
  ∀ timestamp next, active = some ⟨timestamp, next⟩ ↔
    ∃ earlier frame, packets = earlier ++ frame ∧ KeyframeTo frame (next - 1) timestamp ∧
      ∀ q ∈ frame, q.marker = false

section Step
variable {active : Option FrameState} {packets : List SeenPacket} {p : SeenPacket}

/-- A packet ends a keyframe, complete or not, when it continues one or begins one. -/
theorem Follows.keyframeTo (h : Follows active packets)
    (hcontinued : p.continued = decide (active = some ⟨p.timestamp, p.sequenceNumber⟩))
    (n : UInt16) (timestamp : UInt32) :
    (∃ earlier frame, packets ++ [p] = earlier ++ frame ∧ KeyframeTo frame n timestamp) ↔
      p.sequenceNumber = n ∧ p.timestamp = timestamp ∧
        (p.continued = true ∨ p.keyframeStart = true) := by
  constructor
  · rintro ⟨earlier, frame, hsplit, hframe⟩
    rcases List.eq_nil_or_concat frame with rfl | ⟨front, last, rfl⟩
    · exact absurd rfl hframe.ne_nil
    rw [List.concat_eq_append, ← List.append_assoc] at hsplit
    rw [List.concat_eq_append] at hframe
    obtain ⟨hpackets, hlast⟩ := List.append_inj' hsplit rfl
    obtain rfl : p = last := List.head_eq_of_cons_eq hlast
    by_cases hfront : front = []
    · subst hfront
      obtain ⟨hnumber, htimestamp, hstart, -⟩ := keyframeTo_singleton.mp hframe
      exact ⟨hnumber, htimestamp, .inr hstart⟩
    · obtain ⟨⟨hopen, hunmarked⟩, rfl, rfl⟩ := (keyframeTo_append hfront).mp hframe
      have hactive := (h p.timestamp p.sequenceNumber).mpr
        ⟨earlier, front, hpackets, hopen, hunmarked⟩
      refine ⟨rfl, rfl, .inl ?_⟩
      rw [hcontinued]
      exact decide_eq_true hactive
  · rintro ⟨rfl, rfl, hlast⟩
    cases hc : p.continued with
    | true =>
        have hactive := of_decide_eq_true (hcontinued.symm.trans hc)
        obtain ⟨earlier, frame, hpackets, hopen, hunmarked⟩ := (h _ _).mp hactive
        refine ⟨earlier, frame ++ [p], ?_, ?_⟩
        · rw [hpackets, List.append_assoc]
        · exact (keyframeTo_append hopen.ne_nil).mpr ⟨⟨hopen, hunmarked⟩, rfl, rfl⟩
    | false =>
        have hstart : p.keyframeStart = true := by simpa [hc] using hlast
        exact ⟨packets, [p], rfl, keyframeTo_singleton.mpr ⟨rfl, rfl, hstart, hc⟩⟩

/-- What a source's open frame becomes after one more of its packets. -/
def nextActive (p : SeenPacket) : Option FrameState :=
  if p.marker = false ∧ (p.continued = true ∨ p.keyframeStart = true) then
    some ⟨p.timestamp, p.sequenceNumber + 1⟩
  else none

theorem Follows.step (h : Follows active packets)
    (hcontinued : p.continued = decide (active = some ⟨p.timestamp, p.sequenceNumber⟩)) :
    Follows (nextActive p) (packets ++ [p]) := by
  intro timestamp next
  have hkeyframe := h.keyframeTo hcontinued (next - 1) timestamp
  have hnext : p.sequenceNumber = next - 1 ↔ p.sequenceNumber + 1 = next := by
    constructor
    · intro heq
      rw [heq]
      exact UInt16.sub_add_cancel next 1
    · intro heq
      rw [← heq]
      exact (UInt16.add_sub_cancel _ 1).symm
  constructor
  · intro hactive
    unfold nextActive at hactive
    split_ifs at hactive with hopen
    cases hactive
    obtain ⟨earlier, frame, hsplit, hframe⟩ := hkeyframe.mpr ⟨hnext.mpr rfl, rfl, hopen.2⟩
    refine ⟨earlier, frame, hsplit, hframe, ?_⟩
    intro q hq
    rcases List.eq_nil_or_concat frame with rfl | ⟨front, last, rfl⟩
    · cases hq
    rw [List.concat_eq_append] at hsplit hframe hq
    rw [← List.append_assoc] at hsplit
    obtain ⟨-, hlast⟩ := List.append_inj' hsplit rfl
    obtain rfl : p = last := List.head_eq_of_cons_eq hlast
    rcases List.mem_append.mp hq with hfront | hq
    · apply hframe.unmarked
      rwa [List.dropLast_concat]
    · rw [List.mem_singleton.mp hq]
      exact hopen.1
  · rintro ⟨earlier, frame, hsplit, hframe, hunmarked⟩
    obtain ⟨hnumber, rfl, hlast⟩ := hkeyframe.mp ⟨earlier, frame, hsplit, hframe⟩
    have hmem : p ∈ frame :=
      List.mem_of_getLast? (getLast?_of_append_eq hframe.ne_nil hsplit)
    rw [nextActive, if_pos ⟨hunmarked p hmem, hlast⟩, hnext.mp hnumber]

/-- The marker completes the keyframe that ends with its packet. -/
theorem Follows.completes (h : Follows active packets)
    (hcontinued : p.continued = decide (active = some ⟨p.timestamp, p.sequenceNumber⟩)) :
    (∃ earlier frame, packets ++ [p] = earlier ++ frame ∧
        CompleteKeyframe frame p.sequenceNumber p.timestamp) ↔
      p.marker = true ∧ (p.continued = true ∨ p.keyframeStart = true) := by
  have hkeyframe := h.keyframeTo hcontinued p.sequenceNumber p.timestamp
  constructor
  · rintro ⟨earlier, frame, hsplit, hframe⟩
    obtain ⟨-, -, hends⟩ := hkeyframe.mp ⟨earlier, frame, hsplit, hframe.toKeyframeTo⟩
    obtain ⟨last, hlast, hmarker⟩ := hframe.marked
    rw [getLast?_of_append_eq hframe.ne_nil hsplit] at hlast
    obtain rfl := Option.some.inj hlast
    exact ⟨hmarker, hends⟩
  · rintro ⟨hmarker, hends⟩
    obtain ⟨earlier, frame, hsplit, hframe⟩ := hkeyframe.mpr ⟨rfl, rfl, hends⟩
    have hlast := getLast?_of_append_eq hframe.ne_nil hsplit
    exact ⟨earlier, frame, hsplit, hframe, p, hlast, hmarker⟩

end Step

/-! ## The tracker -/

section Tracker
variable (t : VideoKeyframeTracker) (view : RtpPayloadView)

theorem beginFrame_spec (keyframeStart : Bool) (observation : VideoKeyframeObservation)
    (hstate : observation.state ≠ .completed)
    (hnone : t.activeFramesBySsrc.find? view.ssrc = none) :
    ((t.beginFrame view keyframeStart observation).1.state = .completed ↔
      view.marker = true ∧ keyframeStart = true) ∧
    ∀ key, (t.beginFrame view keyframeStart observation).2.activeFramesBySsrc.find? key =
      if key = view.ssrc then
        if view.marker = false ∧ keyframeStart = true then
          some ⟨view.timestamp, view.sequenceNumber + 1⟩
        else none
      else t.activeFramesBySsrc.find? key := by
  have hkeep : ∀ key, t.activeFramesBySsrc.find? key =
      if key = view.ssrc then none else t.activeFramesBySsrc.find? key := by
    intro key
    split_ifs with hkey
    · rw [hkey, hnone]
    · rfl
  unfold VideoKeyframeTracker.beginFrame
  cases keyframeStart with
  | false => exact ⟨by simp [hstate], by simpa using hkeep⟩
  | true =>
      cases hmarker : view.marker with
      | true => exact ⟨by simp, by simpa using hkeep⟩
      | false =>
          refine ⟨by simp, ?_⟩
          intro key
          simpa using AssocMap.find?_insertOrAssign _ _ _ key

/-- What observing a packet of the codec tells and leaves, for every source. -/
theorem observeVp8_spec (keyframeStart : Bool) (observation : VideoKeyframeObservation)
    (hstate : observation.state = .none) :
    ((t.observeVp8 view keyframeStart observation).1.state = .completed ↔
      view.marker = true ∧ (continues t view = true ∨ keyframeStart = true)) ∧
    ∀ key, (t.observeVp8 view keyframeStart observation).2.activeFramesBySsrc.find? key =
      if key = view.ssrc then
        if view.marker = false ∧ (continues t view = true ∨ keyframeStart = true) then
          some ⟨view.timestamp, view.sequenceNumber + 1⟩
        else none
      else t.activeFramesBySsrc.find? key := by
  unfold VideoKeyframeTracker.observeVp8
  cases hactive : t.activeFramesBySsrc.find? view.ssrc with
  | none =>
      have hcontinues : continues t view = false := by
        rw [continues, hactive]
        rfl
      simp only [hcontinues, Bool.false_eq_true, false_or]
      exact beginFrame_spec t view keyframeStart observation (by simp [hstate]) hactive
  | some active =>
      by_cases hother :
          active.timestamp ≠ view.timestamp ∨ active.nextSequenceNumber ≠ view.sequenceNumber
      · have hcontinues : continues t view = false := by
          rw [continues, hactive]
          apply decide_eq_false
          intro heq
          obtain rfl := Option.some.inj heq
          rcases hother with h | h <;> exact h rfl
        simp only [if_pos hother, hcontinues, Bool.false_eq_true, false_or]
        have hspec := beginFrame_spec ⟨t.activeFramesBySsrc.erase view.ssrc⟩ view keyframeStart
          { observation with state := .aborted } (by simp) (AssocMap.find?_erase_self _ _)
        refine ⟨hspec.1, ?_⟩
        intro key
        rw [hspec.2 key, AssocMap.find?_erase]
        by_cases hkey : key = view.ssrc
        · rw [if_pos hkey, if_pos hkey]
        · rw [if_neg hkey, if_neg hkey, if_neg hkey]
      · have hcontinues : continues t view = true := by
          rw [not_or, not_not, not_not] at hother
          rw [continues, hactive, ← hother.1, ← hother.2]
          exact decide_eq_true rfl
        simp only [if_neg hother, hcontinues, true_or, and_true]
        cases hmarker : view.marker with
        | true =>
            refine ⟨by simp, ?_⟩
            intro key
            simp only [if_true, Bool.true_eq_false, if_false, AssocMap.find?_erase,
              AssocMap.find?_insertOrAssign]
            split_ifs <;> rfl
        | false =>
            refine ⟨by simp [hstate], ?_⟩
            intro key
            simp only [Bool.false_eq_true, if_false, if_true, AssocMap.find?_insertOrAssign]
            have htimestamp : active.timestamp = view.timestamp := by
              by_contra hne
              exact hother (.inl hne)
            rw [htimestamp]

end Tracker

/-- An observation without an error, told by the packet's view and the tracker before it. -/
theorem observe_ok {t : VideoKeyframeTracker} {codec : Text} {rtpPacket : List UInt8}
    {observation : VideoKeyframeObservation} (hvp8 : iequals codec (ascii "VP8") = true)
    (h : (t.observe codec rtpPacket).1 = .ok observation) :
    ∃ view, parseRtpPayloadView rtpPacket = .ok view ∧
      (observation.state = .completed ↔ view.marker = true ∧
        ((seenAs t view).continued = true ∨ (seenAs t view).keyframeStart = true)) ∧
      ∀ key, (t.observe codec rtpPacket).2.activeFramesBySsrc.find? key =
        if key = view.ssrc then nextActive (seenAs t view)
        else t.activeFramesBySsrc.find? key := by
  have hcodec : ¬iequals codec (ascii "VP8") = false := by simp [hvp8]
  unfold VideoKeyframeTracker.observe at h ⊢
  cases hview : parseRtpPayloadView rtpPacket with
  | error e =>
      rw [hview] at h
      cases h
  | ok view =>
      rw [hview] at h
      simp only [if_neg hcodec] at h ⊢
      cases hstart : isVp8KeyframeStart view.payload with
      | error e =>
          rw [hstart] at h
          cases h
      | ok keyframeStart =>
          rw [hstart] at h
          cases h
          have hspec := observeVp8_spec t view keyframeStart
            { ssrc := view.ssrc
              timestamp := view.timestamp
              codec } rfl
          have hseen : (seenAs t view).keyframeStart = keyframeStart := by
            cases keyframeStart <;> simp [seenAs, hstart, Except.toOption]
          refine ⟨view, rfl, ?_, ?_⟩
          · rw [hseen]
            exact hspec.1
          · rw [nextActive, hseen]
            exact hspec.2

theorem observe_error {t : VideoKeyframeTracker} {codec : Text} {rtpPacket : List UInt8} {e : Text}
    (h : (t.observe codec rtpPacket).1 = .error e) : (t.observe codec rtpPacket).2 = t := by
  unfold VideoKeyframeTracker.observe at h ⊢
  cases hview : parseRtpPayloadView rtpPacket with
  | error e => rfl
  | ok view =>
      rw [hview] at h
      simp only at h ⊢
      split_ifs at h ⊢
      cases hstart : isVp8KeyframeStart view.payload with
      | error e => rfl
      | ok keyframeStart =>
          rw [hstart] at h
          cases h

theorem continued_seenAs (t : VideoKeyframeTracker) (view : RtpPayloadView) :
    (seenAs t view).continued =
      decide (t.activeFramesBySsrc.find? view.ssrc =
        some ⟨(seenAs t view).timestamp, (seenAs t view).sequenceNumber⟩) :=
  rfl

/-- One observed packet keeps the open frame and the packets of a source together. -/
theorem follows_observe {ssrc : UInt32} {t : VideoKeyframeTracker} {packets : List SeenPacket}
    {codec : Text} (rtpPacket : List UInt8) (hvp8 : iequals codec (ascii "VP8") = true)
    (h : Follows (t.activeFramesBySsrc.find? ssrc) packets) :
    Follows ((t.observe codec rtpPacket).2.activeFramesBySsrc.find? ssrc)
      (packets ++ seenPacket ssrc t codec rtpPacket) := by
  cases hresult : (t.observe codec rtpPacket).1 with
  | error e =>
      rw [observe_error hresult, seenPacket, hresult, List.append_nil]
      exact h
  | ok observation =>
      obtain ⟨view, hview, -, hafter⟩ := observe_ok hvp8 hresult
      rw [seenPacket, hresult, hview, hafter ssrc]
      simp only
      by_cases hssrc : view.ssrc = ssrc
      · subst hssrc
        rw [if_pos rfl, if_pos rfl]
        exact h.step (continued_seenAs t view)
      · rw [if_neg hssrc, if_neg (Ne.symm hssrc), List.append_nil]
        exact h

theorem follows_observeAll {ssrc : UInt32} {observed : List (Text × List UInt8)}
    {t : VideoKeyframeTracker} {packets : List SeenPacket}
    (hvp8 : ∀ packet ∈ observed, iequals packet.1 (ascii "VP8") = true)
    (h : Follows (t.activeFramesBySsrc.find? ssrc) packets) :
    Follows ((observeAll t observed).activeFramesBySsrc.find? ssrc)
      (packets ++ seen ssrc t observed) := by
  induction observed generalizing t packets with
  | nil =>
      rw [seen, List.append_nil]
      exact h
  | cons packet observed ih =>
      have hstep := follows_observe packet.2 (hvp8 packet List.mem_cons_self) h
      have hrest := ih (fun other hother => hvp8 other (List.mem_cons_of_mem _ hother)) hstep
      rw [seen, ← List.append_assoc]
      exact hrest

theorem follows_empty (ssrc : UInt32) :
    Follows (({} : VideoKeyframeTracker).activeFramesBySsrc.find? ssrc) [] := by
  intro timestamp next
  constructor
  · intro h
    cases h
  · rintro ⟨earlier, frame, hsplit, hframe, -⟩
    exact absurd (List.append_eq_nil_iff.mp hsplit.symm).2 hframe.ne_nil

theorem seen_append (ssrc : UInt32) (t : VideoKeyframeTracker)
    (observed more : List (Text × List UInt8)) :
    seen ssrc t (observed ++ more) = seen ssrc t observed ++ seen ssrc (observeAll t observed) more := by
  induction observed generalizing t with
  | nil => rfl
  | cons packet observed ih =>
      rw [List.cons_append, seen, ih, seen, List.append_assoc]
      rfl

/-- Two packets of a keyframe around the end of the numbers, with a foreign and a broken one
between them. -/
def keyframeStartPacket : List UInt8 :=
  [0x80, 96, 255, 255, 0, 0, 0, 7, 0, 0, 0, 1, 0x10, 0x00]

def packetsBetween : List (Text × List UInt8) :=
  [(ascii "vp8", keyframeStartPacket),
    (ascii "VP8", [0x80, 96, 0, 9, 0, 0, 0, 7, 0, 0, 0, 2, 0x10, 0x00]),
    (ascii "VP8", [0x80, 96, 0, 5, 0, 0, 0, 9, 0, 0, 0, 1, 0x80])]

def keyframeEndPacket : List UInt8 :=
  [0x80, 0xE0, 0, 0, 0, 0, 0, 7, 0, 0, 0, 1, 0x00, 0x01]

end SimpleWebrtc.CompleteKeyframes
