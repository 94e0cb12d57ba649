import EcsAsioServer.Network.FrameCodec

/-!
# A connection (`server/network/asio_channel.{hpp,cpp}`)

`AsioChannel` is the state of one connection, `socket_` included as far as the
class uses it: the `async_write` calls made on it and how many have completed.
Each callback that the io thread runs on a channel is a function on that state
which also returns the calls made to the outside, in order (`Callback`).

- Receiving: `readDone` appends a read to `frame_acc_` and runs `parseFrames`,
  whose loop calls `on_frame_` and finally compacts the buffer. `on_frame_` is a
  parameter: it may act on the channel itself and on the state of its owner.
- Sending: `send`, and `writeDone`, the completion handler of `do_write`.
- Ending: `close` and the callbacks that lead to it.

`do_write` passes `asio::buffer(buffer)` and a lambda that captures
`std::move(buffer)` in one argument list; `ArgOrder` says which of the two the
compiled program evaluates first.
-/

namespace EcsAsioServer

open FrameCodec

/-- `close_function`: why a connection ended. -/
inductive CloseFunction where
  | none | write | read | timeout | protocolError | remoteClosed | forceClosed
deriving DecidableEq, Repr

/-- A call from the channel to the server that owns it. -/
inductive Callback where
  | onAccept
  | onFrame (cmd : UInt16) (payload : List UInt8)
  | onClose (reason : CloseFunction)
  | closeCallback (reason : CloseFunction)
deriving DecidableEq, Repr

/-- The order in which the two arguments of `async_write` that use the local
`buffer` are evaluated: the view first, or the move into the lambda first. -/
inductive ArgOrder where
  | viewFirst | captureFirst
deriving DecidableEq, Repr

/-- A call of `async_write`: the byte range it was given and the captures of its
completion handler. -/
structure WriteOp where
  view : List UInt8
  buffer : List UInt8
  batchMsgs : Nat
deriving DecidableEq, Repr

/-- The state of one channel. -/
structure AsioChannel where
  channelId : Int32
  currentQueueBytes : Nat := 0
  closed : Bool := false
  writing : Bool := false
  enqMsgs : Nat := 0
  deqMsgs : Nat := 0
  drops : Nat := 0
  forceCloses : Nat := 0
  bytesSent : Nat := 0
  peakQueued : Nat := 0
  lastRecvMs : Nat := 0
  lastSendMs : Nat := 0
  writeQueue : List (List UInt8) := []
  frameAcc : List UInt8 := []
  frameAccOffset : Nat := 0
  /-- The `async_write` calls made on `socket_`, oldest first. -/
  writes : List WriteOp := []
  /-- How many of them have completed. -/
  writesDone : Nat := 0
deriving DecidableEq, Repr

namespace AsioChannel

/-- 256 KB. -/
def maxQueueBytes : Nat := 256 * 1024

/-- The bytes of one write. -/
def kMaxBatchBytes : Nat := 64 * 1024

/-- The packets of one write. -/
def kMaxBatchMsgs : Nat := 64

/-- The size of `read_buffer_`. -/
def readBufferSize : Nat := 1024

/-- `idle_limit_` in milliseconds. -/
def idleLimitMs : Nat := 30 * 1000

/-- `fetch_sub` on a `size_t`. -/
def subSize (a b : Nat) : Nat := if b ≤ a then a - b else a + 2 ^ 64 - b

/-! ## Closing -/

/-- `close`: only the first call has an effect. The posted shutdown of the
socket shows later, as errors of the reads and writes in progress. -/
def close (ch : AsioChannel) (reason : CloseFunction) : AsioChannel × List Callback :=
  if ch.closed then (ch, [])
  else
    ({ ch with
        closed := true
        forceCloses :=
          if reason = .forceClosed then ch.forceCloses + 1 else ch.forceCloses },
      [.onClose reason, .closeCallback reason])

/-! ## Sending -/

/-- `enqueue_send_`: whether the buffer was taken, and the new state. -/
def enqueueSend (ch : AsioChannel) (buffer : List UInt8) : Bool × AsioChannel :=
  let sz := buffer.length
  -- success, although nothing is queued
  if sz = 0 then (true, ch)
  else
    let cur := ch.currentQueueBytes
    if maxQueueBytes < cur + sz then (false, { ch with drops := ch.drops + 1 })
    else
      (true, { ch with
        writeQueue := ch.writeQueue ++ [buffer]
        currentQueueBytes := cur + sz
        enqMsgs := ch.enqMsgs + 1
        peakQueued := if ch.peakQueued < cur + sz then cur + sz else ch.peakQueued })

/-- What `make_batch_` produces: the batch, its number of messages and the
messages left in the queue. -/
structure Batch where
  out : List UInt8
  outMsgs : Nat
  queue : List (List UInt8)
deriving DecidableEq, Repr

/-- The loop of `make_batch_`, with its accumulators. -/
def batchLoop (out : List UInt8) (acc outMsgs : Nat) : List (List UInt8) → Batch
  | [] => ⟨out, outMsgs, []⟩
  | front :: rest =>
    if outMsgs < kMaxBatchMsgs then
      if kMaxBatchBytes < acc + front.length then ⟨out, outMsgs, front :: rest⟩
      else batchLoop (out ++ front) (acc + front.length) (outMsgs + 1) rest
    else ⟨out, outMsgs, front :: rest⟩

/-- `make_batch_`: `none` when it returns `false`. Nothing has been taken off the
queue then. -/
def makeBatch (queue : List (List UInt8)) : Option Batch :=
  let b := batchLoop [] 0 0 queue
  if 0 < b.outMsgs then some b else none

/-- A moved-from vector is empty: the contents, and what is left behind. -/
def move (buffer : List UInt8) : List UInt8 × List UInt8 := (buffer, [])

/-- The two arguments of `async_write` that use the local `buffer`: the bytes
viewed by `asio::buffer(buffer)`, and the vector captured by the lambda. A view
taken before the move stays valid: the capture then owns the viewed storage. -/
def writeArgs : ArgOrder → List UInt8 → List UInt8 × List UInt8
  | .viewFirst, buffer =>
    let view := buffer
    let (captured, _) := move buffer
    (view, captured)
  | .captureFirst, buffer =>
    let (captured, buffer) := move buffer
    (buffer, captured)

/-- `do_write`. -/
def doWrite (order : ArgOrder) (ch : AsioChannel) : AsioChannel :=
  match makeBatch ch.writeQueue with
  -- the queue is empty, or its first message is above the batch limit and stays
  | none => { ch with writing := false }
  | some b =>
    let (view, captured) := writeArgs order b.out
    { ch with
      writeQueue := b.queue
      writes := ch.writes ++ [⟨view, captured, b.outMsgs⟩] }

/-- `writing_.compare_exchange_strong(false, true)`, followed by `do_write` when
it succeeds. -/
def startWrite (order : ArgOrder) (ch : AsioChannel) : AsioChannel :=
  if ch.writing then ch else doWrite order { ch with writing := true }

/-- `send`. -/
def send (order : ArgOrder) (ch : AsioChannel) (data : List UInt8) (size : Int32) :
    AsioChannel × List Callback :=
  if ch.closed ∨ size.toInt ≤ 0 then (ch, [])
  else
    match ch.enqueueSend (data.take size.toInt.toNat) with
    -- `close` counts a forced close once more
    | (false, ch) => close { ch with forceCloses := ch.forceCloses + 1 } .forceClosed
    | (true, ch) => (startWrite order ch, [])

/-- The completion handler of `do_write` for a write that succeeded at time
`now`; the operation reports the size of the range it was given. -/
def onWritten (order : ArgOrder) (ch : AsioChannel) (op : WriteOp) (now : Nat) :
    AsioChannel :=
  let n := op.view.length
  let ch := { ch with
    currentQueueBytes := subSize ch.currentQueueBytes n
    deqMsgs := ch.deqMsgs + op.batchMsgs
    bytesSent := ch.bytesSent + n
    lastSendMs := now
    writing := false }
  -- not guarded by `closed_`: a closed channel goes on writing what is queued
  if ch.writeQueue.isEmpty then ch else startWrite order ch

/-- The oldest write in progress succeeds. -/
def writeDone (order : ArgOrder) (ch : AsioChannel) (now : Nat) : AsioChannel :=
  match ch.writes[ch.writesDone]? with
  | none => ch
  | some op => onWritten order { ch with writesDone := ch.writesDone + 1 } op now

/-- The oldest write in progress fails. -/
def writeFailed (ch : AsioChannel) : AsioChannel × List Callback :=
  match ch.writes[ch.writesDone]? with
  | none => (ch, [])
  -- `writing_` stays set, so nothing is written on this channel any more
  | some _ => close { ch with writesDone := ch.writesDone + 1 } .write

/-! ## Receiving -/

section Receive

variable {σ : Type}

/-- One frame that `try_parse_one` returned: `on_frame_` is called if the CRC
matches, else the frame is dropped. -/
def deliver (onFrame : UInt16 → List UInt8 → σ → σ) (onDrop : σ → σ) (s : σ)
    (p : Parsed) : σ :=
  if p.crcOk then onFrame p.hdr.cmd p.payload s else onDrop s

/-- A parsed frame moves the offset forward inside the buffer. -/
theorem tryParseOne_advance {acc : List UInt8} {off off' : Nat} {p : Parsed}
    (h : tryParseOne acc off = some (some p, off')) : off < off' ∧ off' ≤ acc.length := by
  by_cases hoff : off ≤ acc.length
  · rw [tryParseOne_eq hoff] at h
    cases ha : frameDecoder.attempt (acc.drop off) with
    | wait => simp [ha] at h
    | giveUp => simp [ha] at h
    | item q n =>
      have hpos := frameDecoder.item_pos ha
      have hle := frameDecoder.item_le ha
      rw [List.length_drop] at hle
      simp only [ha, Option.some.injEq, Prod.mk.injEq] at h
      omega
  · have hz : acc.length - off = 0 := by omega
    simp [tryParseOne, hz] at h

/-- The loop of `parse_frames_` on `frame_acc_` from `frame_acc_offset_`, with
the state `s` that the callbacks act on. -/
def parseLoop (onFrame : UInt16 → List UInt8 → σ → σ) (onDrop : σ → σ)
    (acc : List UInt8) (off : Nat) (s : σ) : σ × Nat :=
  match _h : tryParseOne acc off with
  | some (some p, off') => parseLoop onFrame onDrop acc off' (deliver onFrame onDrop s p)
  | some (none, off') => (s, off')
  | none => (s, off)
termination_by acc.length - off
decreasing_by
  have := tryParseOne_advance _h
  omega

/-- The compaction at the end of `parse_frames_`: the consumed front is erased
once it is more than half of the buffer. -/
def compact (acc : List UInt8) (off : Nat) : List UInt8 × Nat :=
  if acc.length / 2 < off then (acc.drop off, 0) else (acc, off)

/-- `parse_frames_`. The callback acts on the channel and on its owner's state. -/
def parseFrames (onFrame : UInt16 → List UInt8 → AsioChannel × σ → AsioChannel × σ)
    (ch : AsioChannel) (s : σ) : AsioChannel × σ :=
  let onDrop := fun (r : AsioChannel × σ) => ({ r.1 with drops := r.1.drops + 1 }, r.2)
  -- neither the loop nor the compaction looks at `closed_`
  let (r, off) := parseLoop onFrame onDrop ch.frameAcc ch.frameAccOffset (ch, s)
  let (acc, off) := compact ch.frameAcc off
  ({ r.1 with frameAcc := acc, frameAccOffset := off }, r.2)

/-- The completion handler of `do_read` when bytes have arrived. -/
def readDone (onFrame : UInt16 → List UInt8 → AsioChannel × σ → AsioChannel × σ)
    (ch : AsioChannel) (bytes : List UInt8) (s : σ) : AsioChannel × σ :=
  -- `last_recv_ms` is set by `start` alone, a read does not renew it
  parseFrames onFrame { ch with frameAcc := ch.frameAcc ++ bytes } s

end Receive

/-- The completion handler of `do_read` on an error. -/
def readFailed (ch : AsioChannel) : AsioChannel × List Callback := close ch .read

/-! ## Start and timers -/

/-- `start`, at time `now`. -/
def start (ch : AsioChannel) (now : Nat) : AsioChannel × List Callback :=
  -- `write_queue_`, `drops` and `force_closes` are not reset
  ({ ch with
      closed := false, writing := false
      frameAcc := [], frameAccOffset := 0
      currentQueueBytes := 0, peakQueued := 0, enqMsgs := 0, deqMsgs := 0, bytesSent := 0
      lastRecvMs := now, lastSendMs := now },
    [.onAccept])

/-- Expiry of `idle_timer_` at time `now`. -/
def idleExpired (ch : AsioChannel) (now : Nat) : AsioChannel × List Callback :=
  if ch.closed then (ch, [])
  else if idleLimitMs ≤ now - ch.lastRecvMs then close ch .timeout
  else (ch, [])

/-- `send_ping`: an empty frame with command 1. -/
def sendPing (order : ArgOrder) (ch : AsioChannel) : AsioChannel × List Callback :=
  let pkt := pack 1 0 kProtoVer 0 []
  ch.send order pkt (Int32.ofNat pkt.length)

/-- Expiry of `ping_timer_`. -/
def pingExpired (order : ArgOrder) (ch : AsioChannel) : AsioChannel × List Callback :=
  if ch.closed then (ch, []) else ch.sendPing order

end AsioChannel

end EcsAsioServer
