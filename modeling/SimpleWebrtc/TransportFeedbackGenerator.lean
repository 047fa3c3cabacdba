import SimpleWebrtc.TransportFeedbackCodec
import SimpleWebrtc.Library.OrderedMap
import SimpleWebrtc.Library.SequenceSpace

/-!
# The feedback generator of the receiver

`transport_feedback_generator`: arrivals are kept by extended sequence number,
the feedback window starts at the first number which is not yet acknowledged,
and old arrivals are evicted by age and by capacity. Times are nanoseconds of
the steady clock, as the clock counts them; the history age is in milliseconds.
-/
namespace SimpleWebrtc.TransportFeedbackGenerator
open Library Library.SequenceSpace TransportFeedbackCodec

def deltaTickMicroseconds : ℤ := 250
def referenceTimeMicroseconds : ℤ := 64000
def sequenceHalfRange : ℤ := 32768
def maximumSequenceJump : ℤ := 4096
def maximumStatusesPerFeedback : ℕ := 4096
def defaultHistoryAge : ℤ := 2000
def defaultHistoryPackets : ℕ := 32768
def defaultPacketSize : ℕ := 1000

structure ArrivalRecord where
  arrivalTime : ℤ
deriving Repr, DecidableEq

structure BuiltRtcpTransportFeedback where
  packet : List UInt8
  baseSequenceNumber : UInt16
  packetStatusCount : UInt16
  mediaSsrc : UInt32
  feedbackPacketCount : UInt8
  receivedPacketCount : ℕ
  lostPacketCount : ℕ
  beginExtendedSequence : ℤ
  endExtendedSequence : ℤ
deriving Repr, DecidableEq

structure ObserveResult where
  inserted : Bool
  duplicate : Bool
  sequenceDiscontinuity : Bool
  extendedSequenceNumber : ℤ
deriving Repr, DecidableEq

structure GeneratorSnapshot where
  historyPackets : ℕ := 0
  pendingPackets : ℕ := 0
  observedPackets : ℕ := 0
  duplicatePackets : ℕ := 0
  sequenceDiscontinuities : ℕ := 0
  feedbackPacketsBuilt : ℕ := 0
  packetStatusesBuilt : ℕ := 0
deriving Repr, DecidableEq

structure Generator where
  maximumHistoryAge : ℤ := defaultHistoryAge
  maximumHistoryPackets : ℕ := defaultHistoryPackets
  newestExtendedSequence : Option ℤ := none
  feedbackWindowStart : Option ℤ := none
  arrivals : OrderedMap ℤ ArrivalRecord := .empty
  mediaSsrc : UInt32 := 0
  feedbackPacketCount : UInt8 := 0
  stats : GeneratorSnapshot := {}
deriving DecidableEq

/-- `duration_cast` truncates towards zero. -/
def arrivalTimeMicroseconds (time : ℤ) : ℤ := time.tdiv 1000

def floorReferenceTime (arrivalMicroseconds : ℤ) : ℤ :=
  if arrivalMicroseconds ≥ 0 then arrivalMicroseconds.tdiv referenceTimeMicroseconds
  else -((-arrivalMicroseconds + referenceTimeMicroseconds - 1).tdiv referenceTimeMicroseconds)

def roundDeltaTicks (deltaMicroseconds : ℤ) : ℤ :=
  if deltaMicroseconds ≥ 0 then
    (deltaMicroseconds + deltaTickMicroseconds.tdiv 2).tdiv deltaTickMicroseconds
  else (deltaMicroseconds - deltaTickMicroseconds.tdiv 2).tdiv deltaTickMicroseconds

namespace Generator
variable (g : Generator)

/-- The numbers which wait for feedback, when there are any. -/
def pendingRange : Option (ℤ × ℤ) :=
  match g.feedbackWindowStart, g.newestExtendedSequence with
  | some start, some newest => if start ≤ newest then some (start, newest) else none
  | _, _ => none

def hasPendingFeedback : Bool := g.pendingRange.isSome

def pendingStatusCount : ℕ :=
  match g.pendingRange with
  | some (start, newest) => (newest - start + 1).toNat
  | none => 0

def refreshCounts : Generator :=
  { g with stats := { g.stats with
      historyPackets := g.arrivals.size, pendingPackets := g.pendingStatusCount } }

/-- The generator, the extended number and the discontinuity flag. -/
def unwrapSequence (sequenceNumber : UInt16) : Generator × ℤ × Bool :=
  match g.newestExtendedSequence with
  | none =>
      ({ g with newestExtendedSequence := some sequenceNumber.toNat }, sequenceNumber.toNat, false)
  | some newest =>
      let candidate := unwrap sequenceHalfRange newest sequenceNumber.toNat
      let distance := if candidate ≥ newest then candidate - newest else newest - candidate
      if distance > maximumSequenceJump then
        ({ g with
            arrivals := .empty
            feedbackWindowStart := some candidate
            newestExtendedSequence := some candidate }, candidate, true)
      else if candidate > newest then
        ({ g with newestExtendedSequence := some candidate }, candidate, false)
      else (g, candidate, false)

/-- What the two eviction loops leave: by age first, then by capacity from the front. -/
def survivingArrivals (now : ℤ) : OrderedMap ℤ ArrivalRecord :=
  (g.arrivals.filter fun e => decide (now - e.2.arrivalTime ≤ g.maximumHistoryAge * 1000000))
    |>.eraseFrontTo g.maximumHistoryPackets

def evictOld (now : ℤ) : Generator :=
  let arrivals := g.survivingArrivals now
  match g.feedbackWindowStart, arrivals.first? with
  | none, _ => { g with arrivals }
  | some _, none =>
      { g with arrivals, feedbackWindowStart := g.newestExtendedSequence.map (· + 1) }
  | some start, some earliest =>
      let earliestEncodable := earliest.1 - (maximumStatusesPerFeedback - 1)
      { g with
          arrivals
          feedbackWindowStart := some (if start < earliestEncodable then earliestEncodable else start) }

/-- The part of `observe` before eviction. -/
def recordArrival (sequenceNumber : UInt16) (arrivalTime : ℤ) (mediaSsrc : UInt32) :
    Generator × ObserveResult :=
  let (g, extended, discontinuity) := g.unwrapSequence sequenceNumber
  let (arrivals, inserted) := g.arrivals.tryEmplace extended ⟨arrivalTime⟩
  let g := { g with arrivals, mediaSsrc }
  if inserted then
    let start := match g.feedbackWindowStart with
      | none => extended
      | some start => if extended < start then extended else start
    ({ g with
        feedbackWindowStart := some start
        stats := { g.stats with
          observedPackets := g.stats.observedPackets + 1
          sequenceDiscontinuities :=
            g.stats.sequenceDiscontinuities + (if discontinuity then 1 else 0) } },
      ⟨true, false, discontinuity, extended⟩)
  else
    ({ g with stats := { g.stats with duplicatePackets := g.stats.duplicatePackets + 1 } },
      ⟨false, true, discontinuity, extended⟩)

def observe (sequenceNumber : UInt16) (arrivalTime : ℤ) (mediaSsrc : UInt32) :
    Generator × ObserveResult :=
  let (g, result) := g.recordArrival sequenceNumber arrivalTime mediaSsrc
  ((g.evictOld arrivalTime).refreshCounts, result)

def expire (now : ℤ) : Generator := (g.evictOld now).refreshCounts

def commitFeedback (feedback : BuiltRtcpTransportFeedback) : Generator :=
  match g.feedbackWindowStart with
  | none => g
  | some start =>
      if feedback.beginExtendedSequence ≠ start ∨
          feedback.endExtendedSequence < feedback.beginExtendedSequence ∨
          feedback.feedbackPacketCount ≠ g.feedbackPacketCount then g
      else
        refreshCounts { g with
          feedbackWindowStart := some (feedback.endExtendedSequence + 1)
          feedbackPacketCount := g.feedbackPacketCount + 1
          stats := { g.stats with
            feedbackPacketsBuilt := g.stats.feedbackPacketsBuilt + 1
            packetStatusesBuilt :=
              g.stats.packetStatusesBuilt + feedback.packetStatusCount.toNat } }

/-- The local variables of the status loop of `preview_feedback`. -/
structure Preview where
  deltaSizes : List ℕ := []
  deltas : List ℤ := []
  lastArrivalUs : ℤ
  receivedCount : ℕ := 0
  lostCount : ℕ := 0
  actualEnd : ℤ
deriving Repr, DecidableEq

def Preview.start (referenceTime base : ℤ) : Preview where
  lastArrivalUs := referenceTime * referenceTimeMicroseconds
  actualEnd := base - 1

/-- Append a status, or nothing when the packet would be larger than allowed. -/
def Preview.append (p : Preview) (maximumPacketSize : ℕ) (sequence : ℤ) (delta : Option ℤ) :
    Option Preview :=
  let deltaSizes := p.deltaSizes ++ [statusDeltaSize delta]
  if encodedPacketSize deltaSizes > maximumPacketSize then none
  else some
    { deltaSizes
      deltas := p.deltas ++ delta.toList
      lastArrivalUs := p.lastArrivalUs + delta.getD 0 * deltaTickMicroseconds
      receivedCount := p.receivedCount + (if delta.isSome then 1 else 0)
      lostCount := p.lostCount + (if delta.isSome then 0 else 1)
      actualEnd := sequence }

/-- One pass of the status loop; no value means that the loop breaks. -/
def previewStatus (base : ℤ) (maximumPacketSize : ℕ) (sequence : ℤ) (p : Preview) :
    Except String (Option Preview) :=
  match g.arrivals.find? sequence with
  | none => .ok (p.append maximumPacketSize sequence none)
  | some arrival =>
      let deltaTicks :=
        roundDeltaTicks (arrivalTimeMicroseconds arrival.arrivalTime - p.lastArrivalUs)
      if deltaTicks < -32768 ∨ deltaTicks > 32767 then
        if sequence = base then
          .error "rtcp transport feedback first receive delta exceeds signed sixteen-bit field"
        else .ok none
      else .ok (p.append maximumPacketSize sequence (some deltaTicks))

def previewStatuses (base : ℤ) (maximumPacketSize : ℕ) : ℕ → ℤ → Preview → Except String Preview
  | 0, _, p => .ok p
  | remaining + 1, sequence, p =>
      match g.previewStatus base maximumPacketSize sequence p with
      | .error message => .error message
      | .ok none => .ok p
      | .ok (some p) => previewStatuses base maximumPacketSize remaining (sequence + 1) p

def previewFeedback (senderSsrc : UInt32) (maximumPacketSize : ℕ) :
    Except String (Option BuiltRtcpTransportFeedback) :=
  if senderSsrc = 0 then .error "rtcp transport feedback sender ssrc is zero"
  else if maximumPacketSize < headerSize + 4 then
    .error "rtcp transport feedback maximum packet size is too small"
  else
    match g.pendingRange with
    | none => .ok none
    | some (base, newest) =>
        let maximumSequence := min newest (base + (maximumStatusesPerFeedback - 1))
        match g.arrivals.lowerBound base with
        | none => .error "rtcp transport feedback pending range has no received packet"
        | some first =>
            if first.1 > maximumSequence then
              .error "rtcp transport feedback pending range has no received packet"
            else do
              let referenceTime :=
                floorReferenceTime (arrivalTimeMicroseconds first.2.arrivalTime)
              let p ← g.previewStatuses base maximumPacketSize (maximumSequence - base + 1).toNat
                base (.start referenceTime base)
              if p.deltaSizes.isEmpty ∨ p.actualEnd < base then
                .error "rtcp transport feedback packet cannot encode any status"
              else
                let baseSequence := UInt16.ofNat (base % 65536).toNat
                .ok (some
                  { packet := encodeTransportFeedbackPacket senderSsrc g.mediaSsrc baseSequence
                      (UInt32.ofNat (referenceTime % 4294967296).toNat &&& 0x00FFFFFF)
                      g.feedbackPacketCount p.deltaSizes p.deltas
                    baseSequenceNumber := baseSequence
                    packetStatusCount := UInt16.ofNat p.deltaSizes.length
                    mediaSsrc := g.mediaSsrc
                    feedbackPacketCount := g.feedbackPacketCount
                    receivedPacketCount := p.receivedCount
                    lostPacketCount := p.lostCount
                    beginExtendedSequence := base
                    endExtendedSequence := p.actualEnd })

end Generator
end SimpleWebrtc.TransportFeedbackGenerator
