import Mathlib.Data.List.Basic
import Mathlib.Data.UInt

namespace Chassis.Ipmb

/-- The status codes of the `sendRequest` call. -/
inductive IpmbResponseStatus where
  | success
  | error
  | invalidParam
  | busy
  | timeout
  deriving DecidableEq, Repr

def IpmbResponseStatus.code : IpmbResponseStatus → Int
  | .success => 0
  | .error => 1
  | .invalidParam => 2
  | .busy => 3
  | .timeout => 4

abbrev ipmbMaxOutstandingRequestsCount : Nat := 64
def ipmbNumberOfTries : Nat := 6
def ipmbI2cNumberOfRetries : Nat := 2
def broadcastAddress : UInt8 := 0x0
def ipmbMaxDataSize : Nat := 256
def ipmbConnectionHeaderLength : Nat := 3
def ipmbResponseDataHeaderLength : Nat := 4
def ipmbRequestDataHeaderLength : Nat := 3
def ipmbPktLenSize : Nat := 1
def ipmbChecksumSize : Nat := 1
def ipmbMinFrameLength : Nat := 7
def ipmbMaxFrameLength : Nat :=
  ipmbPktLenSize + ipmbConnectionHeaderLength + ipmbResponseDataHeaderLength +
    ipmbChecksumSize + ipmbMaxDataSize
def ipmbNetFnResponseMask : UInt8 := 0x01
def ipmbLunMask : UInt8 := 0x03
def ipmbRsLun : UInt8 := 0x0
def ipmbIpmiInvalidCmd : UInt8 := 0xC1
def ipmbIpmiCmdRespNotProvided : UInt8 := 0xCE

def ipmbNetFnLunSet (netFn lun : UInt8) : UInt8 := (netFn <<< 2) ||| (lun &&& ipmbLunMask)
def ipmbSeqLunSet (seq lun : UInt8) : UInt8 := (seq <<< 2) ||| (lun &&& ipmbLunMask)
def ipmbRespNetFn (netFn : UInt8) : UInt8 := netFn ||| 1
def ipmbReqNetFnFromRespNetFn (netFn : UInt8) : UInt8 := netFn &&& ~~~ipmbNetFnResponseMask
def ipmbNetFnGet (netFnLun : UInt8) : UInt8 := netFnLun >>> 2
def ipmbLunFromNetFnLunGet (netFnLun : UInt8) : UInt8 := netFnLun &&& ipmbLunMask
def ipmbSeqGet (seqNumLun : UInt8) : UInt8 := seqNumLun >>> 2
def ipmbLunFromSeqLunGet (seqNumLun : UInt8) : UInt8 := seqNumLun &&& ipmbLunMask

/-- The byte loop of both checksum functions runs over `length` bytes. -/
def checksumOf (data : List UInt8) (length : UInt8) : UInt8 :=
  (data.take length.toNat).foldl (· + ·) 0

def ipmbChecksumValidate (data : List UInt8) (length : UInt8) : Bool :=
  checksumOf data length == 0

def ipmbChecksumCompute (data : List UInt8) (length : UInt8) : UInt8 :=
  ~~~(checksumOf data length) + 1

def ipmbConnectionHeaderChecksumValidate (frame : List UInt8) : Bool :=
  ipmbChecksumValidate frame (UInt8.ofNat ipmbConnectionHeaderLength)

def ipmbDataChecksumValidate (frame : List UInt8) (length : UInt8) : Bool :=
  ipmbChecksumValidate (frame.drop ipmbConnectionHeaderLength)
    (length - UInt8.ofNat ipmbConnectionHeaderLength)

/-- The length parameter has eight bits, so longer frames are checked over fewer bytes. -/
def isFrameValid (frame : List UInt8) (length : UInt8) : Bool :=
  if ipmbConnectionHeaderChecksumValidate frame = false then false
  else ipmbDataChecksumValidate frame length

/-- A header field is one byte of the zero-initialised receive buffer. -/
def byteAt (frame : List UInt8) (index : Nat) : UInt8 := frame.getD index 0

def ipmbIsResponse (frame : List UInt8) : Bool :=
  ipmbNetFnGet (byteAt frame 1) &&& ipmbNetFnResponseMask != 0

/-- Lengths are unsigned 64-bit numbers, so a subtraction may wrap around. -/
def sizeSub (left right : Nat) : Nat := (left + 2 ^ 64 - right) % 2 ^ 64

/-- The copied range must lie inside the receive buffer. -/
def copyData (frame : List UInt8) (offset dataLength : Nat) : Option (List UInt8) :=
  if offset + dataLength ≤ frame.length then some ((frame.drop offset).take dataLength) else none

structure IpmbResponse where
  address : UInt8
  netFn : UInt8
  rqLun : UInt8
  rsSA : UInt8
  seq : UInt8
  rsLun : UInt8
  cmd : UInt8
  completionCode : UInt8
  data : List UInt8
  deriving DecidableEq, Repr

/-- The decoder never assigns the address of a received response, and nothing reads it. -/
def IpmbResponse.i2cToIpmbConstruct (frame : List UInt8) (bufferLength : Nat) :
    Option IpmbResponse :=
  let dataLength := sizeSub bufferLength
    (ipmbConnectionHeaderLength + ipmbResponseDataHeaderLength + ipmbChecksumSize)
  (copyData frame 7 dataLength).map fun data => {
    address := 0
    netFn := ipmbNetFnGet (byteAt frame 1)
    rqLun := ipmbLunFromNetFnLunGet (byteAt frame 1)
    rsSA := byteAt frame 3
    seq := ipmbSeqGet (byteAt frame 4)
    rsLun := ipmbLunFromSeqLunGet (byteAt frame 4)
    cmd := byteAt frame 5
    completionCode := byteAt frame 6
    data := data }

/-- The driver expects one length byte before the frame. -/
def IpmbResponse.ipmbToi2cConstruct (response : IpmbResponse) : Option (List UInt8) :=
  let bufferLength := 1 + response.data.length + ipmbResponseDataHeaderLength +
    ipmbConnectionHeaderLength + ipmbChecksumSize
  if bufferLength > ipmbMaxFrameLength then none
  else
    let connection := [response.address, ipmbNetFnLunSet response.netFn response.rqLun]
    let body := [response.rsSA, ipmbSeqLunSet response.seq response.rsLun, response.cmd,
      response.completionCode] ++ response.data
    some ([UInt8.ofNat (bufferLength - 1)] ++ connection ++
      [ipmbChecksumCompute connection
        (UInt8.ofNat (ipmbConnectionHeaderLength - ipmbChecksumSize))] ++ body ++
      [ipmbChecksumCompute body
        (UInt8.ofNat (ipmbResponseDataHeaderLength + response.data.length))])

inductive IpmbRequestState where
  | invalid
  | valid
  | matched
  deriving DecidableEq, Repr

/-- The flag `timer` says whether the optional timer object exists. -/
structure IpmbRequest where
  address : UInt8
  netFn : UInt8
  rsLun : UInt8
  rqSA : UInt8
  seq : UInt8
  rqLun : UInt8
  cmd : UInt8
  data : List UInt8
  state : IpmbRequestState := .invalid
  timer : Bool := true
  matchedResponse : Option IpmbResponse := none
  deriving DecidableEq, Repr

/-- A received request has neither an assigned address nor a timer. -/
def IpmbRequest.i2cToIpmbConstruct (frame : List UInt8) (bufferLength : Nat) :
    Option IpmbRequest :=
  let dataLength := sizeSub bufferLength
    (ipmbConnectionHeaderLength + ipmbRequestDataHeaderLength + ipmbChecksumSize)
  (copyData frame 6 dataLength).map fun data => {
    address := 0
    netFn := ipmbNetFnGet (byteAt frame 1)
    rsLun := ipmbLunFromNetFnLunGet (byteAt frame 1)
    rqSA := byteAt frame 3
    seq := ipmbSeqGet (byteAt frame 4)
    rqLun := ipmbLunFromSeqLunGet (byteAt frame 4)
    cmd := byteAt frame 5
    data := data
    timer := false }

def IpmbRequest.ipmbToi2cConstruct (request : IpmbRequest) : Option (List UInt8) :=
  let bufferLength := 1 + request.data.length + ipmbRequestDataHeaderLength +
    ipmbConnectionHeaderLength + ipmbChecksumSize
  if bufferLength > ipmbMaxFrameLength then none
  else
    let connection := [request.address, ipmbNetFnLunSet request.netFn request.rsLun]
    let body := [request.rqSA, ipmbSeqLunSet request.seq request.rqLun, request.cmd] ++ request.data
    some ([UInt8.ofNat (bufferLength - 1)] ++ connection ++
      [ipmbChecksumCompute connection
        (UInt8.ofNat (ipmbConnectionHeaderLength - ipmbChecksumSize))] ++ body ++
      [ipmbChecksumCompute body
        (UInt8.ofNat (ipmbRequestDataHeaderLength + request.data.length))])

/-- The driver sends a frame to the byte after its length byte. -/
def destination (buffer : List UInt8) : UInt8 := byteAt buffer 1

/-- The six components of the `sendRequest` answer. -/
structure SendRequestReply where
  status : Int
  netFn : UInt8
  lun : UInt8
  cmd : UInt8
  cc : UInt8
  data : List UInt8
  deriving DecidableEq, Repr

def returnMatchedResponse (matchedResponse : IpmbResponse) : SendRequestReply where
  status := IpmbResponseStatus.success.code
  netFn := matchedResponse.netFn
  lun := matchedResponse.rsLun
  cmd := matchedResponse.cmd
  cc := matchedResponse.completionCode
  data := matchedResponse.data

def returnStatus (status : IpmbResponseStatus) : SendRequestReply where
  status := status.code
  netFn := 0
  lun := 0
  cmd := 0
  cc := 0
  data := []

end Chassis.Ipmb
