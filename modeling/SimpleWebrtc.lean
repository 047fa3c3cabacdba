import SimpleWebrtc.TransportFeedbackLoss
import SimpleWebrtc.TransportFeedbackPending
import SimpleWebrtc.TransportFeedbackHistory
import SimpleWebrtc.RewriterSequence
import SimpleWebrtc.ConfiguredRewriter
import SimpleWebrtc.WhipConfiguration
import SimpleWebrtc.RewriterSections
import SimpleWebrtc.RewriterTranslation
import SimpleWebrtc.RewriterTimestamps
import SimpleWebrtc.RewriterTimeline
import SimpleWebrtc.SessionStunBinding
import SimpleWebrtc.StunResponse
import SimpleWebrtc.PublisherReplacement
import SimpleWebrtc.NominatedPeer
import SimpleWebrtc.TransportKeys
import SimpleWebrtc.RouterRuns
import SimpleWebrtc.KeyframeRetries
import SimpleWebrtc.PublisherGenerations
import SimpleWebrtc.RetransmissionCacheRuns
import SimpleWebrtc.TrickleIceAtomicity
import SimpleWebrtc.WhepAgreement
import SimpleWebrtc.WhepMediaSources
import SimpleWebrtc.SdpParser
import SimpleWebrtc.MirroredAnswer
import SimpleWebrtc.RtcpDatagrams
import SimpleWebrtc.H264Answer
import SimpleWebrtc.UdpPortAllocator
import SimpleWebrtc.Library.RecordRows
import SimpleWebrtc.RtcpPacketBuilder
import SimpleWebrtc.RtcpRoundTrip
import SimpleWebrtc.Library.CircularProbe
import SimpleWebrtc.RtpReceiveStatistics
import SimpleWebrtc.ReportedLoss
import SimpleWebrtc.VideoKeyframeDetector
import SimpleWebrtc.CompleteKeyframes
import SimpleWebrtc.LayoutWalkers
import SimpleWebrtc.RuntimeOffer
import SimpleWebrtc.PayloadTypeMappings
import SimpleWebrtc.TwoByteExtensions
import SimpleWebrtc.PatchedExtensions
import SimpleWebrtc.RetransmittedPacket
import SimpleWebrtc.ConfiguredRetransmission
import SimpleWebrtc.IceCandidateGrammar
import SimpleWebrtc.IceCandidateLanguage
import SimpleWebrtc.TrickledSections
import SimpleWebrtc.MappedCodecs
import SimpleWebrtc.WhepMediaPath
import SimpleWebrtc.MediaSystem
import SimpleWebrtc.WhipMediaPath
import SimpleWebrtc.SourceTraces
import SimpleWebrtc.TrackedSources
import SimpleWebrtc.SourceByes
import SimpleWebrtc.SubscriberChanges
import SimpleWebrtc.ErasedSources
import SimpleWebrtc.MediaEvents
import SimpleWebrtc.KeyframeWaits
import SimpleWebrtc.KeyframeRecovery
import SimpleWebrtc.KeyframeAgreement
import SimpleWebrtc.KeyframeRuns
import SimpleWebrtc.ArmedRetries
import SimpleWebrtc.KeyframeCoverage
import SimpleWebrtc.SdpFormatter
import SimpleWebrtc.ParsedDescriptions
import SimpleWebrtc.TidyOffers
import SimpleWebrtc.AnswerText
import SimpleWebrtc.OutboundPackets
import SimpleWebrtc.OutboundTraces
import SimpleWebrtc.OutboundNumbers
import SimpleWebrtc.OutboundReports
import SimpleWebrtc.NackRequests
import SimpleWebrtc.Retransmissions
import SimpleWebrtc.PublisherReports
import SimpleWebrtc.HeardSources
import SimpleWebrtc.ReceiverReports
import SimpleWebrtc.ReportRounds
import SimpleWebrtc.AcknowledgedPackets
