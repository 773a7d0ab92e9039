import GvSwitch.Foundation.Bytes

/-!
# Control messages

Requests, header flags and feature bits of the vhost-user protocol as far as
the back-end knows them, and the payloads it parses.
-/

namespace GvSwitch.VhostUser

open Foundation

/-- The requests that are handled; every other code is unsupported. -/
inductive Request where
  | getFeatures
  | setFeatures
  | setOwner
  | resetOwner
  | setMemTable
  | setVringNum
  | setVringAddr
  | setVringBase
  | getVringBase
  | setVringKick
  | setVringCall
  | setVringErr
  | getProtocolFeatures
  | setProtocolFeatures
  | setVringEnable
  deriving DecidableEq, Repr

/-- SET_LOG_BASE (6), SET_LOG_FD (7) and GET_QUEUE_NUM (17) have a code in the
source and fall through to the default. -/
def Request.ofCode (code : UInt32) : Option Request :=
  match code.toNat with
  | 1 => some .getFeatures
  | 2 => some .setFeatures
  | 3 => some .setOwner
  | 4 => some .resetOwner
  | 5 => some .setMemTable
  | 8 => some .setVringNum
  | 9 => some .setVringAddr
  | 10 => some .setVringBase
  | 11 => some .getVringBase
  | 12 => some .setVringKick
  | 13 => some .setVringCall
  | 14 => some .setVringErr
  | 15 => some .getProtocolFeatures
  | 16 => some .setProtocolFeatures
  | 18 => some .setVringEnable
  | _ => none

def flagNeedReply : UInt32 := 0x8

def featNetMrgRxbuf : UInt64 := (1 : UInt64) <<< 15

def featVersion1 : UInt64 := (1 : UInt64) <<< 32

def featAccessPlatform : UInt64 := (1 : UInt64) <<< 33

def featProtocolFeatures : UInt64 := (1 : UInt64) <<< 30

def protoFeatReplyAck : UInt64 := (1 : UInt64) <<< 3

def supportedFeatures : UInt64 :=
  featVersion1 ||| featNetMrgRxbuf ||| featProtocolFeatures

def supportedProtocolFeatures : UInt64 := protoFeatReplyAck

/-- Set in a vring-fd payload that carries no descriptor. -/
def invalidFDFlag : UInt64 := 0x100

def vringIdxMask : UInt64 := 0xff

structure Message where
  req : UInt32
  flags : UInt32
  payload : Bytes
  fds : List Nat
  deriving DecidableEq, Repr

inductive PayloadError where
  | shortVringState
  | shortVringAddr
  | shortVringFD
  deriving DecidableEq, Repr

def u64Payload (value : UInt64) : Bytes := putLE64 value.toNat

def vringStatePayload (payload : Bytes) : Except PayloadError (UInt32 × UInt32) :=
  if payload.length < 8 then .error .shortVringState
  else .ok (UInt32.ofNat (le32 payload 0), UInt32.ofNat (le32 payload 4))

structure VringAddr where
  index : UInt32
  flags : UInt32
  desc : UInt64
  used : UInt64
  avail : UInt64
  log : UInt64
  deriving DecidableEq, Repr

def parseVringAddr (payload : Bytes) : Except PayloadError VringAddr :=
  if payload.length < 40 then .error .shortVringAddr
  else .ok {
    index := UInt32.ofNat (le32 payload 0)
    flags := UInt32.ofNat (le32 payload 4)
    desc := UInt64.ofNat (le64 payload 8)
    used := UInt64.ofNat (le64 payload 16)
    avail := UInt64.ofNat (le64 payload 24)
    log := UInt64.ofNat (le64 payload 32) }

end GvSwitch.VhostUser
