import EsphomeVoip.AudioFormat

/-! # Signals from the SIP transport to the call state machine (`sip_types.h`) -/

namespace EsphomeVoip

/-- `SipSignalType`. -/
inductive SipSignalType where
  | invite
  | status180Ringing
  | status200Ok
  | connectedIdentity
  | cancel
  | bye
  | terminalComplete
  | finalResponse
  | options
  | authRequired
  | proxyAuthRequired
  | mediaIncompatible
  | protocolError
  | mediaReady
  deriving DecidableEq, Repr

/-- `SipSignal`, with the source's member initialisers. -/
structure SipSignal where
  type : SipSignalType := .protocolError
  statusCode : Nat := 0
  terminalTransactionPending : Bool := false
  mediaSourceChanged : Bool := false
  mediaAnswerPending : Bool := false
  callId : String := ""
  callerRoute : String := ""
  callerName : String := ""
  destRoute : String := ""
  destName : String := ""
  connectedRoute : String := ""
  connectedName : String := ""
  reason : String := ""
  callerTxFormats : AudioFormatList := [defaultAudioFormat]
  callerRxFormats : AudioFormatList := [defaultAudioFormat]
  selectedTxFormat : AudioFormat := defaultAudioFormat
  selectedRxFormat : AudioFormat := defaultAudioFormat
  deriving DecidableEq, Repr

namespace SipSignal

/-- The check that `STATUS_200_OK` and `MEDIA_READY` make on the selected formats: an active
    direction uses a configured format, and at least one direction is active. -/
def selectedFormatsRejected (msg : SipSignal) (tx rx : AudioFormatList) : Bool :=
  (msg.selectedTxFormat.isValid && !audioFormatListContains tx msg.selectedTxFormat) ||
  (msg.selectedRxFormat.isValid && !audioFormatListContains rx msg.selectedRxFormat) ||
  (!msg.selectedTxFormat.isValid && !msg.selectedRxFormat.isValid)

end SipSignal

end EsphomeVoip
