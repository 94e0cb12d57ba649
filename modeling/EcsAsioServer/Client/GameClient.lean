import EcsAsioServer.Network.Segmentation
import EcsAsioServer.Protocol.Wire

/-!
# The test client (`client/game_client.cpp`)

`create_frame` has a frame format of its own: a CRC field that is always 0, the message id, a
16-bit length and the payload. To the server's parser the CRC field is a frame length of 0, too
small for a header, and it throws away all that has arrived. `game_client_ignored`: while the
frames of this client arrive whole, nothing that it sends reaches a handler; and of what `main`
sends nothing does, however it arrives (`main_ignored`).
-/

namespace EcsAsioServer.Client

open AsioChannel FrameCodec Incremental Protocol

/-- `create_frame`. The length is cut to 16 bits. -/
def createFrame (msgId : UInt16) (data : List UInt8) : List UInt8 :=
  putLe32 0 ++ putLe16 msgId ++ putLe16 (UInt16.ofNat data.length) ++ data

theorem attempt_createFrame (msgId : UInt16) (data rest : List UInt8) :
    frameDecoder.attempt (createFrame msgId data ++ rest) = .giveUp := by
  have hbad : BadLength 0
      (putLe16 msgId ++ putLe16 (UInt16.ofNat data.length) ++ data ++ rest) :=
    .inr ⟨by decide, Nat.zero_le _⟩
  have hsplit : createFrame msgId data ++ rest = putLe32 0
      ++ (putLe16 msgId ++ putLe16 (UInt16.ofNat data.length) ++ data ++ rest) := by
    simp only [createFrame, List.append_assoc]
  rw [hsplit]
  exact attempt_giveUp_iff.mpr ⟨0, _, rfl, hbad⟩

/-- A read that starts with such a frame. -/
def OldFormat (r : Read) : Prop :=
  ∃ msgId data rest, r.bytes = createFrame msgId data ++ rest

theorem feed_oldFormat {reads : List Read} (h : ∀ r ∈ reads, OldFormat r) :
    frameDecoder.feed [] (reads.map Read.bytes) = ([], []) := by
  induction reads with
  | nil => rfl
  | cons r reads ih =>
    obtain ⟨hr, hrest⟩ := List.forall_mem_cons.mp h
    obtain ⟨msgId, data, rest, hbytes⟩ := hr
    have hdrain : frameDecoder.drain ([] ++ r.bytes) = ([], none) := by
      rw [List.nil_append, hbytes]
      exact Decoder.drain_giveUp (attempt_createFrame msgId data rest)
    simp only [List.map_cons, Decoder.feed, hdrain]
    exact ih hrest

/-- **The test client is not understood**: if every read of the server starts with a frame of
`create_frame`, as when the frames arrive whole, no handler is ever called. -/
theorem game_client_ignored (cb : UInt16 → List UInt8 → AsioChannel → AsioChannel)
    (ch : AsioChannel) (now : Nat) (reads : List Read) (h : ∀ r ∈ reads, OldFormat r) :
    (runReads cb (ch.start now).1 reads).2 = [] := by
  rw [runReads_calls, feed_oldFormat h]
  rfl

/-- `move_coords`, the point (10, 20, 30). -/
def moveCoords : List UInt8 :=
  writeFloatLe ⟨0x41200000⟩ ++ writeFloatLe ⟨0x41A00000⟩ ++ writeFloatLe ⟨0x41F00000⟩

/-- The four messages of `main`. -/
def mainFrames : List (List UInt8) :=
  [createFrame 1 (ascii "PING"), createFrame 1001 (ascii "TestPlayer"),
    createFrame 1002 moveCoords, createFrame 1003 (ascii "Hello, server!")]

/-- Each of them in a read of its own. -/
theorem game_client_ignored_main : ∃ reads : List Read, reads.map Read.bytes = mainFrames ∧
    (runReads (fun _ _ ch => ch) (start { channelId := 1 } 0).1 reads).2 = [] := by
  let reads : List Read :=
    [⟨createFrame 1 (ascii "PING"), by decide, by decide⟩,
     ⟨createFrame 1001 (ascii "TestPlayer"), by decide, by decide⟩,
     ⟨createFrame 1002 moveCoords, by decide, by decide⟩,
     ⟨createFrame 1003 (ascii "Hello, server!"), by decide, by decide⟩]
  refine ⟨reads, rfl, game_client_ignored _ _ _ reads ?_⟩
  simp only [reads, List.forall_mem_cons]
  exact ⟨⟨_, _, [], (List.append_nil _).symm⟩, ⟨_, _, [], (List.append_nil _).symm⟩,
    ⟨_, _, [], (List.append_nil _).symm⟩, ⟨_, _, [], (List.append_nil _).symm⟩,
    List.forall_mem_nil _⟩

/-- From its length field on, the MOVE is to the server a frame with an empty payload and a wrong
checksum. There is no other frame in the stream. -/
theorem mainFrames_yields :
    frameDecoder.Yields (fun p => p.crcOk = false) mainFrames.flatten := by
  have hbad : ∀ t ∈ mainFrames.flatten.tails, ∀ p ∈ (tryParseOne t 0).bind Prod.fst,
      p.crcOk = false := by
    decide +kernel
  intro t ht p n hitem
  obtain ⟨hdr, payload, u, rfl, hlen, rfl, -⟩ := attempt_item_iff.mp hitem
  refine hbad _ ((List.mem_tails _ _).mpr ht) _ ?_
  rw [tryParseOne_encode hdr payload u hlen]
  rfl

/-- **Nothing that `main` sends reaches a handler**, however it is cut into reads. -/
theorem main_ignored (cb : UInt16 → List UInt8 → AsioChannel → AsioChannel) (ch : AsioChannel)
    (now : Nat) (reads : List Read) (h : reads.flatMap Read.bytes = mainFrames.flatten) :
    (runReads cb (ch.start now).1 reads).2 = [] := by
  have hcrc : ∀ p ∈ (frameDecoder.feed [] (reads.map Read.bytes)).1, p.crcOk = false := by
    refine frameDecoder.feed_yields ?_
    rw [List.nil_append, ← List.flatMap_def, h]
    exact mainFrames_yields
  rw [runReads_calls]
  simpa [callsOf] using hcrc

end EcsAsioServer.Client
