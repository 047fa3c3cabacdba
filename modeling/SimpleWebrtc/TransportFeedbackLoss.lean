import SimpleWebrtc.TransportFeedbackReports
import SimpleWebrtc.TransportFeedbackRuns

/-!
# Reported losses

A status is reported lost when its number has no arrival record, so the report
is right as long as every observed number at or above the window start still
has its record. Eviction keeps that when the records it drops lie below the
window start which it leaves behind, and a late packet keeps it when the
numbers it uncovers still have their records. `evict_old` moves the window
start past dropped records only when it drops all of them.
-/
namespace SimpleWebrtc.TransportFeedbackGenerator
open Library TransportFeedbackCodec

namespace Generator

/-- Either no record survives eviction, or every dropped record is below the window start, before
or after it is moved up to the first encodable number. -/
def EvictsBelowWindow (g : Generator) (now : ℤ) : Prop :=
  ∀ earliest ∈ (g.survivingArrivals now).first?, ∀ record ∈ g.arrivals.entries,
    record.1 ∉ g.survivingArrivals now →
      record.1 < earliest.1 - 4095 ∨ ∀ start ∈ g.feedbackWindowStart, record.1 < start

instance (g : Generator) (now : ℤ) : Decidable (g.EvictsBelowWindow now) :=
  inferInstanceAs (Decidable (∀ earliest ∈ (g.survivingArrivals now).first?,
    ∀ record ∈ g.arrivals.entries, record.1 ∉ g.survivingArrivals now →
      record.1 < earliest.1 - 4095 ∨ ∀ start ∈ g.feedbackWindowStart, record.1 < start))

/-- Every observed number from the window start on has its record. -/
def KeepsObserved (g : Generator) (observed : List ℤ) : Prop :=
  ∀ start, g.feedbackWindowStart = some start → ∀ x ∈ observed, start ≤ x → x ∈ g.arrivals

def ObservedUpToNewest (g : Generator) (observed : List ℤ) : Prop :=
  ∀ x ∈ observed, ∃ newest, g.newestExtendedSequence = some newest ∧ x ≤ newest

theorem KeepsObserved.evictOld {g : Generator} {observed : List ℤ} {now : ℤ}
    (hkept : g.KeepsObserved observed) (hbound : g.ObservedUpToNewest observed)
    (hevict : g.EvictsBelowWindow now) : (g.evictOld now).KeepsObserved observed := by
  intro start hstart x hx hle
  rcases hwindow : g.feedbackWindowStart with _ | before
  · rw [evictOld_window_none g now hwindow] at hstart
    simp at hstart
  rw [evictOld_window g now hwindow] at hstart
  obtain ⟨newest, hnewest, hxnewest⟩ := hbound x hx
  rw [evictOld_arrivals]
  rcases hfirst : (g.survivingArrivals now).first? with _ | earliest
  · rw [hfirst, hnewest] at hstart
    have hnext : newest + 1 = start := Option.some.inj hstart
    omega
  · rw [hfirst] at hstart
    obtain rfl := Option.some.inj hstart
    by_contra hgone
    obtain ⟨record, hrecord⟩ := hkept before hwindow x hx (by omega)
    rcases hevict earliest hfirst _ hrecord hgone with h | h
    · omega
    · have := h before hwindow
      omega

end Generator

namespace GeneratorRun

/-- The observed packet continues the sequence. -/
def Continuous (r : GeneratorRun) : GeneratorEvent → Prop
  | .observe sequenceNumber _ _ => (r.generator.unwrapSequence sequenceNumber).2.2 = false
  | _ => True

/-- A packet below the window start arrives only while every observed number it uncovers still
has its record, and eviction drops only records below the window start. -/
def KeepsPendingRecords (r : GeneratorRun) : GeneratorEvent → Prop
  | .observe sequenceNumber arrivalTime mediaSsrc =>
      (∀ x ∈ r.observed, r.generator.extendedNumber sequenceNumber ≤ x →
        (∀ start ∈ r.generator.feedbackWindowStart, x < start) → x ∈ r.generator.arrivals) ∧
      (r.generator.recordArrival sequenceNumber arrivalTime mediaSsrc).1.EvictsBelowWindow
        arrivalTime
  | .expire now => r.generator.EvictsBelowWindow now
  | _ => True

instance (r : GeneratorRun) : (event : GeneratorEvent) → Decidable (r.Continuous event)
  | .observe sequenceNumber _ _ =>
      inferInstanceAs (Decidable ((r.generator.unwrapSequence sequenceNumber).2.2 = false))
  | .preview .. | .commit _ | .expire _ => inferInstanceAs (Decidable True)

instance (r : GeneratorRun) : (event : GeneratorEvent) → Decidable (r.KeepsPendingRecords event)
  | .observe sequenceNumber arrivalTime mediaSsrc =>
      inferInstanceAs (Decidable ((∀ x ∈ r.observed,
        r.generator.extendedNumber sequenceNumber ≤ x →
          (∀ start ∈ r.generator.feedbackWindowStart, x < start) → x ∈ r.generator.arrivals) ∧
        (r.generator.recordArrival sequenceNumber arrivalTime mediaSsrc).1.EvictsBelowWindow
          arrivalTime))
  | .expire now => inferInstanceAs (Decidable (r.generator.EvictsBelowWindow now))
  | .preview .. | .commit _ => inferInstanceAs (Decidable True)

/-- No status of any packet which could be previewed now denies a number which was observed. -/
def NeverDeniesObserved (r : GeneratorRun) : Prop :=
  ∀ senderSsrc maximumPacketSize feedback parsed,
    r.generator.previewFeedback senderSsrc maximumPacketSize = .ok (some feedback) →
    parseRtcpTransportFeedback feedback.packet = .ok parsed →
    ∀ i (hi : i < parsed.statuses.length), parsed.statuses[i].received = false →
      feedback.beginExtendedSequence + i ∉ r.observed

structure LossInvariant (r : GeneratorRun) : Prop where
  bound : r.generator.ObservedUpToNewest r.observed
  kept : r.generator.KeepsObserved r.observed

theorem LossInvariant.observe {r : GeneratorRun} (hr : LossInvariant r) {sequenceNumber : UInt16}
    {arrivalTime : ℤ} {mediaSsrc : UInt32}
    (hcontinuous : r.Continuous (.observe sequenceNumber arrivalTime mediaSsrc))
    (hkeeps : r.KeepsPendingRecords (.observe sequenceNumber arrivalTime mediaSsrc)) :
    LossInvariant { r with
      generator := (r.generator.observe sequenceNumber arrivalTime mediaSsrc).1
      clock := some arrivalTime
      observed := r.generator.extendedNumber sequenceNumber :: r.observed } := by
  obtain ⟨newest, hunwrap, hle, hforward⟩ := Generator.unwrapSequence_continuous hcontinuous
  obtain ⟨hlate, hevict⟩ := hkeeps
  have hbound : (r.generator.recordArrival sequenceNumber arrivalTime mediaSsrc).1.ObservedUpToNewest
      (r.generator.extendedNumber sequenceNumber :: r.observed) := by
    intro x hx
    refine ⟨newest, by rw [Generator.recordArrival_newest, hunwrap], ?_⟩
    rcases List.mem_cons.mp hx with rfl | hx
    · exact hle
    · obtain ⟨before, hbefore, hxbefore⟩ := hr.bound x hx
      exact le_trans hxbefore (hforward before hbefore)
  have hkept : (r.generator.recordArrival sequenceNumber arrivalTime mediaSsrc).1.KeepsObserved
      (r.generator.extendedNumber sequenceNumber :: r.observed) := by
    intro start hstart x hx hstartle
    rw [Generator.mem_recordArrival, hunwrap]
    rw [Generator.recordArrival_window, hunwrap] at hstart
    rcases List.mem_cons.mp hx with rfl | hx
    · exact Or.inr rfl
    left
    by_cases hcovered : ∃ before, r.generator.feedbackWindowStart = some before ∧ before ≤ x
    · obtain ⟨before, hbefore, hbeforele⟩ := hcovered
      exact hr.kept before hbefore x hx hbeforele
    have hbelow : ∀ before ∈ r.generator.feedbackWindowStart, x < before := by
      intro before hbefore
      by_contra hge
      exact hcovered ⟨before, hbefore, not_lt.mp hge⟩
    apply hlate x hx ?_ hbelow
    split_ifs at hstart with hmem
    · have := hbelow start hstart
      omega
    rcases hwindow : r.generator.feedbackWindowStart with _ | before
    · simp only [hwindow] at hstart
      obtain rfl := Option.some.inj hstart
      exact hstartle
    · simp only [hwindow] at hstart
      obtain rfl := Option.some.inj hstart
      have := hbelow before hwindow
      omega
  exact ⟨fun x hx => by simpa [Generator.observe] using hbound x hx, hkept.evictOld hbound hevict⟩

theorem LossInvariant.step {r r' : GeneratorRun} {event : GeneratorEvent} (hr : LossInvariant r)
    (hcontinuous : r.Continuous event) (hkeeps : r.KeepsPendingRecords event)
    (h : r.step event = some r') : LossInvariant r' := by
  rcases step_cases h with ⟨sequenceNumber, arrivalTime, mediaSsrc, rfl, rfl⟩ |
    ⟨senderSsrc, maximumPacketSize, rfl, hgenerator, hobserved⟩ | ⟨feedback, rfl, rfl⟩ |
    ⟨now, rfl, rfl⟩
  · exact hr.observe hcontinuous hkeeps
  · exact ⟨by rw [hgenerator, hobserved]; exact hr.bound, by rw [hgenerator, hobserved]; exact hr.kept⟩
  · refine ⟨fun x hx => by simpa using hr.bound x hx, ?_⟩
    intro start hstart x hx hle
    rw [Generator.commitFeedback_arrivals]
    rcases r.generator.commitFeedback_window feedback with heq | ⟨before, hbefore, hend, heq⟩
    · exact hr.kept start (by rw [← heq]; exact hstart) x hx hle
    · obtain rfl := Option.some.inj (heq.symm.trans hstart)
      exact hr.kept before hbefore x hx (by omega)
  · exact ⟨fun x hx => by simpa [Generator.expire] using hr.bound x hx,
      hr.kept.evictOld hr.bound hkeeps⟩

theorem LossInvariant.neverDenies {r : GeneratorRun} (hr : LossInvariant r) :
    NeverDeniesObserved r := by
  intro senderSsrc maximumPacketSize feedback parsed hpreview hparse i hi hlost hobserved
  obtain ⟨parsed', hparsed', hstatus⟩ := preview_statuses r.generator hpreview
  obtain rfl := Except.ok.inj (hparse.symm.trans hparsed')
  obtain ⟨newest, first, p, ticks, hrange, -⟩ := Generator.previewFeedback_eq_some hpreview
  obtain ⟨hstart, -, -⟩ := Generator.pendingRange_eq_some.mp hrange
  have harrival := hr.kept _ hstart _ hobserved (by omega)
  rw [(hstatus i hi).2.mpr harrival] at hlost
  exact Bool.noConfusion hlost

/-- In every run which continues its sequence and keeps the pending records, no report denies a
number which was observed. -/
theorem run_never_denies_observed {events : List GeneratorEvent} {r : GeneratorRun}
    (h : (system.restrict fun r event =>
      r.Continuous event ∧ r.KeepsPendingRecords event).Run events r) :
    NeverDeniesObserved r := by
  have hr : LossInvariant r := by
    refine h.invariant ?_ ?_
    · rintro s ⟨age, packets, rfl⟩
      exact ⟨fun x hx => by simp at hx, fun start _ x hx => by simp at hx⟩
    · rintro s event s' hs ⟨⟨hcontinuous, hkeeps⟩, hstep⟩
      exact hs.step hcontinuous hkeeps hstep
  exact hr.neverDenies

/-- A reordered burst is reported, acknowledged and evicted. -/
def burstEvents : List GeneratorEvent :=
  [.observe 1 125500 7, .observe 0 250000 7, .preview 9 defaultPacketSize,
    .commit reorderedBurstFeedback, .expire 3000000000]

def burstRun : GeneratorRun := (burstEvents.foldlM step {}).getD {}

theorem run_never_denies_observed_burst : NeverDeniesObserved burstRun := by
  have hrun : (system.restrict fun r event =>
      r.Continuous event ∧ r.KeepsPendingRecords event).Run burstEvents burstRun :=
    EventSystem.run_of_exec_restrict initial_default (by decide +kernel)
  exact run_never_denies_observed hrun

/-- Packet 10 is reported, acknowledged and evicted while packet 12 is kept; then packet 5 comes
late and moves the window start back below all of them. -/
def lateEvents : List GeneratorEvent :=
  [.observe 10 0 7, .preview 9 defaultPacketSize,
    .commit ⟨[175, 205, 0, 5, 0, 0, 0, 9, 0, 0, 0, 7, 0, 10, 0, 1, 0, 0, 0, 0, 160, 0, 0, 1],
      10, 1, 7, 0, 1, 0, 10, 10⟩,
    .observe 12 1000000000 7, .expire 2500000000, .observe 5 2500000000 7]

def lateRun : GeneratorRun := (lateEvents.foldlM step {}).getD {}

/-- The report after the late packet denies packet 10. -/
theorem run_denies_observed :
    ¬ ∀ events r, (system.restrict Continuous).Run events r → NeverDeniesObserved r := by
  intro hall
  have hrun : (system.restrict Continuous).Run lateEvents lateRun :=
    EventSystem.run_of_exec_restrict initial_default (by decide +kernel)
  refine hall lateEvents lateRun hrun 9 defaultPacketSize
    ⟨[175, 205, 0, 6, 0, 0, 0, 9, 0, 0, 0, 7, 0, 5, 0, 8, 0, 0, 39, 1,
      208, 0, 224, 0, 16, 232, 144, 1], 5, 8, 7, 1, 2, 6, 5, 12⟩
    ⟨9, 7, 5, 8, 39, 1, [⟨5, true, some 16⟩, ⟨6, false, none⟩, ⟨7, false, none⟩, ⟨8, false, none⟩,
      ⟨9, false, none⟩, ⟨10, false, none⟩, ⟨11, false, none⟩, ⟨12, true, some (-6000)⟩]⟩
    (by decide +kernel) (by decide +kernel) 5 (by decide) rfl (by decide +kernel)

end GeneratorRun
end SimpleWebrtc.TransportFeedbackGenerator
