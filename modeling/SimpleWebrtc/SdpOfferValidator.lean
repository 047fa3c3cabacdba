import SimpleWebrtc.SdpSummary
import SimpleWebrtc.H264Fmtp

/-!
# Offer validation

What an offer must be before it is answered: a usable fingerprint, an `actpass`
setup, distinct MIDs that are all in the bundle group, and sections whose
directions suit a publisher or a subscriber.
-/
namespace SimpleWebrtc.SdpOfferValidator
open Library Library.Text SdpSummary

def makeMediaError (errorPrefix : Text) (media : MediaSummary) (suffix : Text) : Text :=
  errorPrefix ++ ascii " media mid " ++ media.mid ++ ascii " " ++ suffix

def fingerprintDigestSize (algorithm : Text) : Except Text ℕ :=
  let normalized := toLower algorithm
  if normalized = ascii "sha-256" then .ok 32
  else if normalized = ascii "sha-384" then .ok 48
  else if normalized = ascii "sha-512" then .ok 64
  else .error (ascii "offer fingerprint algorithm is unsupported: " ++ algorithm)

/-- Pairs of hexadecimal digits with a colon between them. The length has been
checked before. -/
def validateDigest : Text → Except Text Unit
  | high :: low :: colon :: rest => do
      ensure (H264Fmtp.isHexDigit high = true ∧ H264Fmtp.isHexDigit low = true)
        (ascii "offer fingerprint value contains invalid hexadecimal byte")
      ensure (colon = 58) (ascii "offer fingerprint value must use colon separators")
      validateDigest rest
  | [high, low] =>
      ensure (H264Fmtp.isHexDigit high = true ∧ H264Fmtp.isHexDigit low = true)
        (ascii "offer fingerprint value contains invalid hexadecimal byte")
  | _ => .ok ()

def validateFingerprint (fingerprint : FingerprintInfo) : Except Text Unit := do
  ensure (fingerprint.algorithm ≠ []) (ascii "offer fingerprint algorithm is empty")
  ensure (fingerprint.value ≠ []) (ascii "offer fingerprint value is empty")
  let digestSize ← fingerprintDigestSize fingerprint.algorithm
  ensure (fingerprint.value.length = digestSize * 3 - 1)
    (ascii "offer fingerprint value length does not match algorithm " ++ fingerprint.algorithm)
  validateDigest fingerprint.value

def validateUniqueMids (empty duplicate : Text) : List Text → Except Text Unit
  | [] => .ok ()
  | mid :: rest => do
      ensure (mid ≠ []) empty
      ensure (mid ∉ rest) (duplicate ++ mid)
      validateUniqueMids empty duplicate rest

def validateUniqueMediaMids (offer : WebrtcOfferSummary) : Except Text Unit :=
  validateUniqueMids (ascii "media mid is empty") (ascii "duplicate media mid: ")
    (offer.media.map MediaSummary.mid)

def validateUniqueBundleMids (offer : WebrtcOfferSummary) : Except Text Unit :=
  validateUniqueMids (ascii "bundle mid is empty") (ascii "duplicate bundle mid: ")
    offer.bundleMids

/-- The first section that fails a check decides the error. -/
def forMedia (check : MediaSummary → Except Text Unit) : List MediaSummary → Except Text Unit
  | [] => .ok ()
  | media :: rest => do
      check media
      forMedia check rest

def validateBundleMembership (offer : WebrtcOfferSummary) (media : MediaSummary) :
    Except Text Unit :=
  ensure (media.mid ∈ offer.bundleMids)
    (makeMediaError (ascii "offer") media (ascii "is not present in bundle group"))

def validateOfferedMedia (media : MediaSummary) : Except Text Unit := do
  let makeError := makeMediaError (ascii "offer") media
  ensure (media.kind = kAudio ∨ media.kind = kVideo)
    (makeError (ascii "has unsupported media kind"))
  ensure (media.direction ≠ .unknown) (makeError (ascii "has unknown direction"))
  ensure (media.rtcpMux = true) (makeError (ascii "does not enable rtcp-mux"))
  ensure (media.payloadTypes ≠ []) (makeError (ascii "has no payload types"))
  ensure (media.codecs ≠ []) (makeError (ascii "has no codecs"))

def validateCommonOffer (offer : WebrtcOfferSummary) : Except Text Unit := do
  ensure (offer.iceUfrag ≠ []) (ascii "offer ice-ufrag is empty")
  ensure (offer.icePwd ≠ []) (ascii "offer ice-pwd is empty")
  validateFingerprint offer.fingerprint
  ensure (offer.setup = .actpass) (ascii "offer setup must be actpass")
  ensure (offer.bundleMids ≠ []) (ascii "offer bundle group is empty")
  ensure (offer.media ≠ []) (ascii "offer has no audio or video media")
  validateUniqueMediaMids offer
  validateUniqueBundleMids offer
  forMedia (validateBundleMembership offer) offer.media
  forMedia validateOfferedMedia offer.media

/-- A direction the offering side may not have is an error, and one section
must have a direction of its own. -/
def validateDirections (name : Text) (forbidden : MediaDirection) (forbiddenError noneError : Text)
    (offer : WebrtcOfferSummary) : Except Text Unit := do
  forMedia (fun media => do
    ensure (media.direction ≠ forbidden) (makeMediaError name media forbiddenError)
    ensure (media.direction ≠ .unknown)
      (makeMediaError name media (ascii "has unknown direction"))) offer.media
  ensure (∃ media ∈ offer.media, media.direction ≠ .inactive) noneError

def validateWhipOffer (offer : WebrtcOfferSummary) : Except Text Unit := do
  validateCommonOffer offer
  validateDirections (ascii "whip") .recvOnly (ascii "must not be recvonly")
    (ascii "whip offer has no send-capable media") offer

def validateWhepOffer (offer : WebrtcOfferSummary) : Except Text Unit := do
  validateCommonOffer offer
  validateDirections (ascii "whep") .sendOnly (ascii "must not be sendonly")
    (ascii "whep offer has no receive-capable media") offer

/-! ## What a valid offer guarantees -/

theorem validateUniqueMids_nodup {empty duplicate : Text} {mids : List Text}
    (h : validateUniqueMids empty duplicate mids = .ok ()) : mids.Nodup := by
  induction mids with
  | nil => exact List.nodup_nil
  | cons mid rest ih =>
      obtain ⟨_, _, h⟩ := bind_ok.mp h
      obtain ⟨_, hfresh, h⟩ := bind_ok.mp h
      exact List.nodup_cons.mpr ⟨ensure_ok.mp hfresh, ih h⟩

theorem validateCommonOffer_mids {offer : WebrtcOfferSummary}
    (h : validateCommonOffer offer = .ok ()) : (offer.media.map MediaSummary.mid).Nodup := by
  obtain ⟨_, _, h⟩ := bind_ok.mp h
  obtain ⟨_, _, h⟩ := bind_ok.mp h
  obtain ⟨_, _, h⟩ := bind_ok.mp h
  obtain ⟨_, _, h⟩ := bind_ok.mp h
  obtain ⟨_, _, h⟩ := bind_ok.mp h
  obtain ⟨_, _, h⟩ := bind_ok.mp h
  obtain ⟨_, hmids, h⟩ := bind_ok.mp h
  exact validateUniqueMids_nodup hmids

theorem validateWhepOffer_mids {offer : WebrtcOfferSummary}
    (h : validateWhepOffer offer = .ok ()) : (offer.media.map MediaSummary.mid).Nodup := by
  obtain ⟨_, hcommon, h⟩ := bind_ok.mp h
  exact validateCommonOffer_mids hcommon

end SimpleWebrtc.SdpOfferValidator
