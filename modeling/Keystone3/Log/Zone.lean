import Keystone3.Bytes.Crc
import Keystone3.Flash.Nor
import Keystone3.Logic.Outcome

/-!
# The log zone

`log.c` keeps the event log in a ring of flash sectors. A record is a head of eight
bytes and a payload of whole words, and does not cross a sector: when it does not fit,
the rest of the sector is marked and the record goes to the beginning of the next one,
which is erased first.

After a reset the position is found again from the heads in flash (`findLogOffsetAddr`), and the
zone is checked from its earliest record to that position (`checkLogData`); a zone that
does not look right is erased.
-/

namespace Keystone3.Log

open Bytes (Block toLe ofLe crc16Ccitt)
open Logic (Outcome)

abbrev sectorSize : Nat := 4096

abbrev spiFlashAddrLog : Nat := 0x00800000

abbrev spiFlashSizeLog : Nat := 0x80000

abbrev logEnd : Nat := spiFlashAddrLog + spiFlashSizeLog

abbrev sectorCount : Nat := spiFlashSizeLog / sectorSize

abbrev logDataHeadSize : Nat := 8

abbrev nextSectorMark : Nat := 0x0000

/-- `LogData_t` as it is filled in for a record; the length is a bit field. -/
structure LogData where
  event : UInt16
  length : Fin (2 ^ 11)
  dataType : Bool
  timeStamp : UInt32
  pData : Block (4 * length.val)

namespace LogData

/-- `checksum`, a bit field of four bits. -/
def checksum (d : LogData) : Nat := (crc16Ccitt (toLe 4 d.timeStamp.toNat)).toNat % 2 ^ 4

def bitFields (d : LogData) : Nat := d.length.val + 2 ^ 11 * (d.checksum + 2 ^ 4 * d.dataType.toNat)

/-- The bytes that `WriteLogSync` hands over. -/
def bytes (d : LogData) : List UInt8 :=
  toLe 2 d.event.toNat ++ toLe 2 d.bitFields ++ toLe 4 d.timeStamp.toNat ++ d.pData.bytes

def size (d : LogData) : Nat := logDataHeadSize + d.length.val * 4

/-- A record that can be told from a mark and from erased flash, and that fits a sector. -/
structure Valid (d : LogData) : Prop where
  not_mark : d.event.toNat ≠ nextSectorMark
  not_erased : d.event.toNat ≠ 0xFFFF
  fits : d.size ≤ sectorSize

@[simp] theorem length_bytes (d : LogData) : d.bytes.length = d.size := by
  simp only [bytes, size, logDataHeadSize, List.length_append, Bytes.length_toLe, Block.size_eq]
  omega

theorem le_size (d : LogData) : 8 ≤ d.size := Nat.le_add_right 8 _

theorem four_dvd_size (d : LogData) : 4 ∣ d.size :=
  Nat.dvd_add (by decide : 4 ∣ 8) (Nat.dvd_mul_left 4 _)

end LogData

structure LogHead where
  event : Nat
  length : Nat
  checksum : Nat
  timeStamp : List UInt8

/-- `Gd25FlashReadBuffer(addr, &logData, LOG_DATA_HEAD_SIZE)`. -/
def readHead (f : Flash.Cells) (addr : Nat) : LogHead :=
  let b := Flash.read f addr logDataHeadSize
  let bits := ofLe ((b.drop 2).take 2)
  { event := ofLe (b.take 2)
    length := bits % 2 ^ 11
    checksum := bits / 2 ^ 11 % 2 ^ 4
    timeStamp := b.drop 4 }

def LogHead.checksumRight (h : LogHead) : Bool :=
  h.checksum == (crc16Ccitt h.timeStamp).toNat % 2 ^ 4

/-- The flash and `g_logAddr`. -/
structure LogState where
  flash : Flash.Cells
  logAddr : Nat

def getNextSectorAddr (addr : Nat) : Nat :=
  let nextSectorAddr := (addr + sectorSize) / sectorSize * sectorSize
  if nextSectorAddr ≥ logEnd then spiFlashAddrLog else nextSectorAddr

def eraseNextSector (length : Nat) (s : LogState) : LogState :=
  if s.logAddr % sectorSize + length ≥ sectorSize then
    let nextSectorAddr := getNextSectorAddr s.logAddr
    let flash := Flash.eraseSector sectorSize nextSectorAddr s.flash
    -- a record that would end with the sector goes to the next one too, but without a mark
    { flash := if s.logAddr % sectorSize + length > sectorSize then
        Flash.programPages 256 s.logAddr (toLe 2 nextSectorMark) flash else flash
      logAddr := nextSectorAddr }
  else s

def writeLogDataToFlash (data : List UInt8) (s : LogState) : LogState :=
  let s := eraseNextSector data.length s
  { flash := Flash.programPages 256 s.logAddr data s.flash, logAddr := s.logAddr + data.length }

def sectorAddrs : List Nat := (List.range sectorCount).map fun p => spiFlashAddrLog + p * sectorSize

def logEraseSync (s : LogState) : LogState where
  flash := sectorAddrs.foldl (fun f addr => Flash.eraseSector sectorSize addr f) s.flash
  logAddr := spiFlashAddrLog

/-- The loop of `FindLogOffsetAddr`, for as many heads as there is fuel: the address where the
records end, or an error when the zone has to be erased. -/
def findLoop (f : Flash.Cells) : Nat → Nat → Outcome Unit Nat
  | 0, _ => .halted
  | fuel + 1, addr =>
    if addr < logEnd then
      let logData := readHead f addr
      if logData.event = 0xFFFF then .ok addr
      else if logData.event = nextSectorMark then
        let addr := getNextSectorAddr addr
        if addr = spiFlashAddrLog then .error () else findLoop f fuel addr
      else if logData.checksumRight then
        findLoop f fuel (addr + logDataHeadSize + logData.length * 4)
      else .error ()
    else .error ()

def findLogOffsetAddr (s : LogState) : Outcome Unit (Nat × LogState) :=
  match findLoop s.flash spiFlashSizeLog spiFlashAddrLog with
  | .ok addr => .ok (addr, s)
  | .error _ => .ok (spiFlashAddrLog, logEraseSync s)
  | .halted => .halted

/-- The first loop of `CheckLogData`: the earliest sector with a record. -/
def findEarliest (f : Flash.Cells) : Nat → Nat → Option Nat
  | 0, _ => none
  | tries + 1, readAddr =>
    let readAddr := getNextSectorAddr readAddr
    if (readHead f readAddr).event ≠ 0xFFFF then some readAddr else findEarliest f tries readAddr

/-- The second loop of `CheckLogData`, with the records that it passes; an error is a zone that
has to be erased. -/
def checkLoop (f : Flash.Cells) (logAddr : Nat) : Nat → Nat → Outcome Unit (List (List UInt8))
  | 0, _ => .halted
  | fuel + 1, readAddr =>
    let logData := readHead f readAddr
    if readAddr ≥ logEnd then .error ()
    else if readAddr = logAddr then .ok []
    else if logData.event = nextSectorMark then
      checkLoop f logAddr fuel (getNextSectorAddr readAddr)
    -- an erased head in front of the writer is left to its checksum
    else if logData.event = 0xFFFF ∧ readAddr > logAddr then .error ()
    else if logData.checksumRight then do
      let size := logDataHeadSize + logData.length * 4
      let records ← checkLoop f logAddr fuel (readAddr + size)
      pure (Flash.read f readAddr size :: records)
    else .error ()

def checkLogData (s : LogState) : Outcome Unit LogState :=
  match findEarliest s.flash sectorCount s.logAddr with
  | none => .ok (logEraseSync s)
  | some readAddr =>
    match checkLoop s.flash s.logAddr spiFlashSizeLog readAddr with
    | .ok _ => .ok s
    | .error _ => .ok (logEraseSync s)
    | .halted => .halted

/-- `LogInit`, up to the record of the boot. -/
def logInit (s : LogState) : Outcome Unit LogState := do
  let found ← findLogOffsetAddr s
  checkLogData { found.2 with logAddr := found.1 }

end Keystone3.Log
