import EsphomeVoip.ForStd.EventRun
import EsphomeVoip.AudioFormat
import EsphomeVoip.Signal
import EsphomeVoip.Phonebook
import EsphomeVoip.Fsm.Types
import EsphomeVoip.Fsm.State
import EsphomeVoip.Fsm.Handlers
import EsphomeVoip.Fsm.Termination
import EsphomeVoip.Fsm.Fallback
import EsphomeVoip.Fsm.Media
import EsphomeVoip.ForStd.WrapClock
import EsphomeVoip.SipMessage
import EsphomeVoip.Transport.State
import EsphomeVoip.Transport.Send
import EsphomeVoip.Transport.Lifecycle
import EsphomeVoip.Transport.Dialog
import EsphomeVoip.Transport.Video
import EsphomeVoip.Transport.Invite
import EsphomeVoip.Transport.Response
import EsphomeVoip.Transport.Pump
import EsphomeVoip.Transport.Refer
import EsphomeVoip.Transport.Step
import EsphomeVoip.Transport.Foreign
import EsphomeVoip.Transport.Late
import EsphomeVoip.Transport.Bye
import EsphomeVoip.Transport.Reinvite
import EsphomeVoip.ForStd.Framing
import EsphomeVoip.SipStream
import EsphomeVoip.SipFraming
import EsphomeVoip.ForStd.History
import EsphomeVoip.Transport.Wire
import EsphomeVoip.Transport.Refine.Send
import EsphomeVoip.Transport.Refine.Respond
import EsphomeVoip.Transport.Refine.Dialog
import EsphomeVoip.Transport.Refine.Video
import EsphomeVoip.Transport.Refine.Invite
import EsphomeVoip.Transport.Refine.Response
import EsphomeVoip.Transport.Refine.Pump
import EsphomeVoip.Transport.Refine.Refer
import EsphomeVoip.Transport.Refine.Step
import EsphomeVoip.Transport.Run
import EsphomeVoip.Transport.Transfer
import EsphomeVoip.Transport.Frame
import EsphomeVoip.Transport.Order
import EsphomeVoip.Transport.Replay
import EsphomeVoip.ForStd.SerialNumber
import EsphomeVoip.ForStd.SlotTable
import EsphomeVoip.Rtp.JitterBuffer
import EsphomeVoip.Rtp.Account
import EsphomeVoip.Rtp.PlayoutOrder
import EsphomeVoip.Transport.MediaWorker
import EsphomeVoip.ForStd.Scan
import EsphomeVoip.Video.AnnexB
import EsphomeVoip.Video.RtpPacket
import EsphomeVoip.Video.VideoRtpSession
import EsphomeVoip.Video.Packetization
import EsphomeVoip.Video.Packetizer
import EsphomeVoip.Video.Reassembly
import EsphomeVoip.Video.RoundTrip
import EsphomeVoip.Video.SentStream
import EsphomeVoip.Video.LossSafety
import EsphomeVoip.ForStd.Search
import EsphomeVoip.Sdp.Text
import EsphomeVoip.Sdp.MediaLine
import EsphomeVoip.Sdp.RtpFormat
import EsphomeVoip.Sdp.Endpoint
import EsphomeVoip.Sdp.Audio
import EsphomeVoip.Sdp.DirectionOffer
import EsphomeVoip.Sdp.Learn
import EsphomeVoip.Sdp.Written
import EsphomeVoip.Sdp.MediaShape
import EsphomeVoip.Sdp.Agreement
import EsphomeVoip.Sdp.VideoSection
import EsphomeVoip.Sdp.Mirror
import EsphomeVoip.ForStd.FirstMatch
import EsphomeVoip.Phonebook.Contacts
import EsphomeVoip.Phonebook.Rows
import EsphomeVoip.Phonebook.Invariant
import EsphomeVoip.Phonebook.Pruning
import EsphomeVoip.Phonebook.Normalize
import EsphomeVoip.Phonebook.Capability
import EsphomeVoip.Rtp.AudioPayload
import EsphomeVoip.Rtp.SendAudio
import EsphomeVoip.Rtp.ReceiveAudio
import EsphomeVoip.Video.ReceiveWorker
import EsphomeVoip.Video.SlotOwnership
import EsphomeVoip.Transport.Timely.Send
import EsphomeVoip.Transport.Timely.Dialog
import EsphomeVoip.Transport.Timely.Ending
import EsphomeVoip.Transport.Timely.Requests
import EsphomeVoip.Transport.Timely.Pump
import EsphomeVoip.Transport.Timely.Transfer
import EsphomeVoip.Transport.Timely.Step
import EsphomeVoip.Transport.Timely.Records
import EsphomeVoip.Transport.SelectTimeout
import EsphomeVoip.Transport.Schedule
import EsphomeVoip.Video.RtpJpeg
import EsphomeVoip.Phonebook.Replace
import EsphomeVoip.RoutingSettings
import EsphomeVoip.SipText
import EsphomeVoip.SipText.NameAddr
import EsphomeVoip.SipText.Identity
import EsphomeVoip.SipText.Headers
import EsphomeVoip.SipText.Via
import EsphomeVoip.Rtp.HeaderAgreement
import EsphomeVoip.Video.Rtcp
import EsphomeVoip.Video.RtcpCompound
import EsphomeVoip.Video.NalUnits
import EsphomeVoip.Video.RtpJpegDepacketizer
import EsphomeVoip.Video.QuantizationCache
import EsphomeVoip.ForStd.TokenBucket
import EsphomeVoip.Video.FrameCadence
import EsphomeVoip.Audio.DcBlocker
import EsphomeVoip.Audio.MicQueue
import EsphomeVoip.Audio.ReceiveConverter
import EsphomeVoip.Sdp.Reoffer
import EsphomeVoip.Video.JpegHeaders
import EsphomeVoip.Video.JpegSender
import EsphomeVoip.Video.JpegRoundTrip
import EsphomeVoip.Video.JpegReception
import EsphomeVoip.Video.JpegStream
import EsphomeVoip.Video.JpegArrival
import EsphomeVoip.Video.JpegLossSafety
import EsphomeVoip.Sdp.AudioEntries
import EsphomeVoip.Sdp.ReadBack
import EsphomeVoip.Sdp.Selection
import EsphomeVoip.Sdp.Agreed
import EsphomeVoip.Sdp.OfferText
import EsphomeVoip.Sdp.AnswerEntries
import EsphomeVoip.Sdp.BothEnds
import EsphomeVoip.Sdp.OfferAnswer
import EsphomeVoip.ForStd.Quoted
import EsphomeVoip.Transport.Refresh
