import EcsAsioServer.Game.Runs

/-!
# From the sockets to the handlers (`server/network/asio_server.cpp`)

`ServerStep` takes frames as they come and leaves the ids of new connections open. Here the
server is driven by what the sockets report: a connection is accepted, some bytes arrive. The
acceptor numbers the connections, and each channel collects its bytes and calls the handlers
from the loop of `parse_frames_`, so that one read may be many frames or none.

`network_refines`: a run of this system is a run of `ServerStep` with the same state at its
end, and in it the frames of each channel are those that the frame decoder makes of the bytes
of that channel alone, in order, whatever the other channels do in between. What `Enabled`
assumes is accounted for: up to 2³² connections have ids of their own (`next_channel_id_` is
an `int` that wraps), and frames reach the handlers between `on_accept` and `on_close` as long
as reads are `Timely`. A read that is not, because the channel has closed before it or one of
its own replies closes it, still has its frames delivered; such runs are left out here.
-/

namespace EcsAsioServer.GameServer

open AsioChannel FrameCodec Incremental StateProgram Transition

/-- What `do_read` and `parse_frames_` keep in a channel object. No other function of the
channel uses it, and it is held apart from the object in `net` here. -/
structure ReceiveBuffer where
  frameAcc : List UInt8 := []
  frameAccOffset : Nat := 0
  /-- A read is in progress: `do_read` is not called again after an error. -/
  reading : Bool := true
deriving DecidableEq

namespace ReceiveBuffer

/-- The bytes received and not yet parsed. -/
def unread (b : ReceiveBuffer) : List UInt8 := b.frameAcc.drop b.frameAccOffset

/-- The buffer holds what is left of these reads. -/
def Collects (b : ReceiveBuffer) (reads : List (List UInt8)) : Prop :=
  Collected reads b.frameAcc b.frameAccOffset

end ReceiveBuffer

/-- The acceptor, the channels and the server behind them. `channels_` only owns the channel
objects, nothing looks anything up in it. -/
structure AsioServer where
  game : GameServer
  nextChannelId : Int32 := 1
  buffers : ChannelMap ReceiveBuffer := ∅

/-- What the sockets report, and the other events of the server. -/
inductive NetEvent where
  | acceptError
  | accepted (now : Nat)
  | read (channelId : Int32) (r : Read)
  | readError (channelId : Int32)
  | server (e : ServerEvent)

/-- The events that do not come from a socket. -/
def ServerEvent.isInternal : ServerEvent → Bool
  | .accept .. | .frame .. | .readError _ => false
  | _ => true

namespace AsioServer

variable (env : Env)

/-- `on_frame_` as `do_accept` sets it. -/
def onFrame (channelId : Int32) (cmd : UInt16) (payload : List UInt8) (s : GameServer) :
    GameServer :=
  -- a handler that waits for itself does not return to the loop
  if s.mtx then s else after (dispatch env cmd channelId payload) s

/-- A frame with a wrong CRC only counts in `drops`. -/
def handle (channelId : Int32) : GameServer → Parsed → GameServer :=
  deliver (onFrame env channelId) id

/-- One event. -/
def step (a : AsioServer) : NetEvent → AsioServer
  -- `do_accept` again
  | .acceptError => a
  | .accepted now =>
    let id := a.nextChannelId
    { game := after (acceptChannel id now) a.game
      nextChannelId := a.nextChannelId + 1
      buffers := a.buffers.insert id {} }
  | .read channelId r =>
    match a.buffers.lookup channelId with
    | none => a
    | some b =>
      let acc := b.frameAcc ++ r.bytes
      let (game, off) := parseLoop (onFrame env channelId) id acc b.frameAccOffset a.game
      let (acc, off) := compact acc off
      { a with
        game
        buffers := a.buffers.insert channelId { b with frameAcc := acc, frameAccOffset := off } }
  | .readError channelId =>
    match a.buffers.lookup channelId with
    | none => a
    | some b =>
      { a with
        game := after (act env (.readError channelId)) a.game
        buffers := a.buffers.insert channelId { b with reading := false } }
  | .server e => { a with game := after (act env e) a.game }

/-- When an event is possible. -/
def Possible (a : AsioServer) : NetEvent → Prop
  | .acceptError | .accepted _ => a.game.mtx = false
  | .read channelId _ | .readError channelId =>
    a.game.mtx = false ∧ (a.buffers.lookup channelId).map ReceiveBuffer.reading = some true
  | .server e => e.isInternal = true ∧ Enabled a.game e

instance (a : AsioServer) : DecidablePred (Possible a) := fun e => by
  cases e <;> unfold Possible <;> infer_instance

/-- The channel is registered whenever one of the frames is handled. -/
def InTime (channelId : Int32) : List Parsed → GameServer → Prop
  | [], _ => True
  | p :: ps, s =>
    (p.crcOk = true → s.mtx = false → channelId ∈ s.channels)
      ∧ InTime channelId ps (handle env channelId s p)

instance (channelId : Int32) : (ps : List Parsed) → (s : GameServer) →
    Decidable (InTime env channelId ps s)
  | [], _ => .isTrue trivial
  | p :: ps, s =>
    have := instDecidableInTime channelId ps (handle env channelId s p)
    inferInstanceAs (Decidable (_ ∧ _))

/-- The frames of a read are handled before the channel closes. -/
def Timely (a : AsioServer) : NetEvent → Prop
  | .read channelId r =>
    InTime env channelId (frameDecoder.drain
      (((a.buffers.lookup channelId).elim [] ReceiveBuffer.unread) ++ r.bytes)).1 a.game
  | _ => True

/-- One event of the network. -/
def NetStep (a : AsioServer) (e : NetEvent) (a' : AsioServer) : Prop :=
  Possible a e ∧ step env a e = a'

end AsioServer

/-! ## What happened on a channel -/

/-- The frames of a channel that were handled. -/
def framesOf (channelId : Int32) (fs : List ServerEvent) : List Call :=
  fs.filterMap fun
    | .frame id cmd payload => if id = channelId then some (cmd, payload) else none
    | _ => none

/-- The reads of a channel. -/
def readsOf (channelId : Int32) (es : List NetEvent) : List (List UInt8) :=
  es.filterMap fun
    | .read id r => if id = channelId then some r.bytes else none
    | _ => none

/-- The number of connections. -/
def accepts (es : List NetEvent) : Nat :=
  es.countP fun
    | .accepted _ => true
    | _ => false

theorem framesOf_append (channelId : Int32) (fs fs' : List ServerEvent) :
    framesOf channelId (fs ++ fs') = framesOf channelId fs ++ framesOf channelId fs' :=
  List.filterMap_append

theorem readsOf_append (channelId : Int32) (es es' : List NetEvent) :
    readsOf channelId (es ++ es') = readsOf channelId es ++ readsOf channelId es' :=
  List.filterMap_append

theorem accepts_append (es es' : List NetEvent) : accepts (es ++ es') = accepts es + accepts es' :=
  List.countP_append

/-! ## Ids -/

/-- The id of the `k`-th connection. -/
def idOf (k : Nat) : Int32 := Int32.ofNat (k + 1)

/-- All channel objects are of the first `n` connections. -/
def Numbered (n : Nat) (s : GameServer) : Prop := ∀ id ∈ s.net, ∃ k < n, id = idOf k

theorem idOf_injective {j k : Nat} (hj : j < 2 ^ 32) (hk : k < 2 ^ 32) (h : idOf j = idOf k) :
    j = k := by
  have hint := congrArg Int32.toInt h
  simp only [idOf, Int32.toInt_ofNat', Int.bmod] at hint
  have hsize : Int32.size = 4294967296 := rfl
  rw [hsize] at hint
  split at hint <;> split at hint <;> omega

theorem idOf_fresh {n : Nat} (hn : n < 2 ^ 32) {P : Int32 → Prop}
    (h : ∀ id, P id → ∃ k < n, id = idOf k) : ¬ P (idOf n) := by
  intro hmem
  obtain ⟨k, hk, heq⟩ := h _ hmem
  have := idOf_injective hn (hk.trans hn) heq
  omega

theorem idOf_succ (n : Nat) : idOf n + 1 = idOf (n + 1) := (Int32.ofNat_add (n + 1) 1).symm

theorem Numbered.insert {n : Nat} {s : GameServer} (h : Numbered n s) {id : Int32}
    {ch : AsioChannel} (hch : s.net.lookup id = some ch) (ch' : AsioChannel) :
    Numbered n { s with net := s.net.insert id ch' } := by
  intro id' hmem
  rcases (AList.mem_insert _).mp hmem with rfl | hmem
  · exact h _ (mem_of_lookup hch)
  · exact h id' hmem

/-- Only `do_accept` makes channel objects. -/
theorem numbered_kept (n : Nat) :
    Kept (Numbered n) fun s => Numbered n s ∧ s.mtx = true where
  mtx _ _ hs := hs
  locked _ hm hs := ⟨hs, hm⟩
  ecs _ _ hs := hs
  net _ _ _ ch' hch _ hs := hs.insert hch ch'
  close _ _ _ ch' _ hch _ _ _ hs := hs.insert hch ch'
  stuck _ _ _ ch' hch _ _ hm hs := ⟨hs.insert hch ch', hm⟩
  setEntity _ _ _ _ hs := hs
  eraseEntity _ _ hs := hs
  setDbId _ _ _ _ hs := hs
  setMap _ _ _ _ _ hs := hs
  post _ _ _ _ hs := hs
  mainThread _ _ hs := hs
  guild _ _ _ _ hs := hs
  completions _ _ _ hs := hs

section Step

variable {env : Env} {s t : GameServer} {e : ServerEvent}

/-- The ids go up by one with each connection. -/
theorem Numbered.step {n : Nat} (h : Numbered n s) (hstep : ServerStep env s e t)
    (haccept : ∀ channelId now, e ≠ .accept channelId now) : Numbered n t := by
  have hkept := numbered_kept n
  have forget : ∀ {t : GameServer}, Numbered n t ∨ Numbered n t ∧ t.mtx = true → Numbered n t :=
    fun h => h.elim id And.left
  obtain ⟨henabled, rfl⟩ := hstep
  cases e with
  | accept channelId now => exact absurd rfl (haccept channelId now)
  | frame channelId cmd payload =>
    exact forget ((hkept.dispatch env cmd channelId payload).after ⟨h, henabled.2⟩)
  | completion i => exact forget ((hkept.runCompletion env i).after h)
  | strand channelId out =>
    obtain ⟨storage, completions, heq⟩ := runStrand_eq env s channelId out
    show Numbered n (s.runStrand env channelId out)
    rw [heq]
    exact h
  | written | writeError | readError | idleTimer | pingTimer | flushTimer | gameThreads =>
    exact forget (hkept.toDirectKept.event h rfl)

/-- Frames of one channel. -/
def OnlyFrames (channelId : Int32) (fs : List ServerEvent) : Prop :=
  ∀ e ∈ fs, ∃ cmd payload, e = .frame channelId cmd payload

theorem OnlyFrames.framesOf_ne {channelId id : Int32} {fs : List ServerEvent}
    (h : OnlyFrames channelId fs) (hne : id ≠ channelId) : framesOf id fs = [] := by
  refine List.filterMap_eq_nil_iff.mpr fun e he => ?_
  obtain ⟨cmd, payload, rfl⟩ := h e he
  exact if_neg hne.symm

theorem Numbered.frames {n : Nat} {fs : List ServerEvent} {channelId : Int32} (h : Numbered n s)
    (hrun : Run (ServerStep env) s fs t) (hfs : OnlyFrames channelId fs) : Numbered n t := by
  induction hrun with
  | nil => exact h
  | snoc _ hstep ih =>
    refine (ih fun e he => hfs e (List.mem_append_left _ he)).step hstep fun id now heq => ?_
    obtain ⟨cmd, payload, hframe⟩ := hfs _ (List.mem_append_right _ (List.mem_singleton_self _))
    cases heq.symm.trans hframe

end Step

/-! ## One read -/

namespace AsioServer

section Read

variable {env : Env} {channelId : Int32}

theorem foldl_handle_stuck {s : GameServer} (hm : s.mtx = true) (ps : List Parsed) :
    ps.foldl (handle env channelId) s = s := by
  induction ps with
  | nil => rfl
  | cons p ps ih =>
    have hp : handle env channelId s p = s := by
      cases hc : p.crcOk <;> simp [handle, deliver, onFrame, hc, hm]
    rw [List.foldl_cons, hp, ih]

/-- The frames of a read, handled one after the other, are a run. If the thread gets stuck, it
handles the first of them only. -/
theorem handle_run (ps : List Parsed) (s : GameServer) (h : InTime env channelId ps s) :
    ∃ fs, Run (ServerStep env) s fs (ps.foldl (handle env channelId) s)
      ∧ OnlyFrames channelId fs
      ∧ framesOf channelId fs <+: callsOf ps
      ∧ ((ps.foldl (handle env channelId) s).mtx = false →
        framesOf channelId fs = callsOf ps) := by
  induction ps generalizing s with
  | nil => exact ⟨[], .nil, List.forall_mem_nil _, List.nil_prefix, fun _ => rfl⟩
  | cons p ps ih =>
    obtain ⟨hin, hrest⟩ := h
    cases hm : s.mtx with
    | true =>
      rw [foldl_handle_stuck hm]
      refine ⟨[], .nil, List.forall_mem_nil _, List.nil_prefix, fun hfree => ?_⟩
      cases hm.symm.trans hfree
    | false =>
      obtain ⟨fs, hrun, honly, hle, heq⟩ := ih _ hrest
      rw [List.foldl_cons]
      cases hc : p.crcOk with
      | false =>
        have hp : handle env channelId s p = s := by simp [handle, deliver, hc]
        have hcalls : callsOf (p :: ps) = callsOf ps := by simp [callsOf, hc]
        rw [hp] at hrun heq ⊢
        rw [hcalls]
        exact ⟨fs, hrun, honly, hle, heq⟩
      | true =>
        have hp : handle env channelId s p
            = after (dispatch env p.hdr.cmd channelId p.payload) s := by
          simp [handle, deliver, onFrame, hc, hm]
        have hcalls : callsOf (p :: ps) = (p.hdr.cmd, p.payload) :: callsOf ps := by
          simp [callsOf, hc]
        have hframes : framesOf channelId (.frame channelId p.hdr.cmd p.payload :: fs)
            = (p.hdr.cmd, p.payload) :: framesOf channelId fs := by
          simp [framesOf]
        have hstep : ServerStep env s (.frame channelId p.hdr.cmd p.payload)
            (handle env channelId s p) := ⟨⟨hm, hin hc hm⟩, hp.symm⟩
        refine ⟨_ :: fs, (Run.single hstep).append hrun, ?_, ?_, ?_⟩
        · exact List.forall_mem_cons.mpr ⟨⟨_, _, rfl⟩, honly⟩
        · rw [hframes, hcalls]
          exact (List.prefix_cons_inj _).mpr hle
        · intro hfree
          rw [hframes, hcalls, heq hfree]

end Read

/-- One read: the frames that it completes are handled in order, and the buffer holds the
rest. -/
theorem step_read (env : Env) {a : AsioServer} {channelId : Int32} {b : ReceiveBuffer}
    {reads : List (List UInt8)} (hb : a.buffers.lookup channelId = some b)
    (hcollected : b.Collects reads) (r : Read) :
    ∃ b', b'.reading = b.reading ∧ b'.Collects (reads ++ [r.bytes]) ∧
      step env a (.read channelId r) = { a with
        game := (frameDecoder.drain ((frameDecoder.feed [] reads).2 ++ r.bytes)).1.foldl
          (handle env channelId) a.game
        buffers := a.buffers.insert channelId b' } := by
  obtain ⟨off, hloop, hcompact⟩ := hcollected.read (onFrame env channelId) id r.bytes a.game
  let c := compact (b.frameAcc ++ r.bytes) off
  refine ⟨{ b with frameAcc := c.1, frameAccOffset := c.2 }, rfl, hcompact, ?_⟩
  simp only [step, hb, hloop]
  rfl

/-! ## Runs -/

/-- What a run of the sockets has in common with a run of frames. -/
structure Refines (env : Env) (g : GameServer) (es : List NetEvent) (a : AsioServer)
    (fs : List ServerEvent) : Prop where
  run : Run (ServerStep env) g fs a.game
  numbered : Numbered (accepts es) a.game
  next : a.nextChannelId = idOf (accepts es)
  known : ∀ id ∈ a.buffers, ∃ k < accepts es, id = idOf k
  silent : ∀ id ∉ a.buffers, readsOf id es = []
  collected : ∀ id b, a.buffers.lookup id = some b → b.Collects (readsOf id es)
  frames_le : ∀ id, framesOf id fs <+: callsOf (frameDecoder.feed [] (readsOf id es)).1
  frames_eq : a.game.mtx = false →
    ∀ id, framesOf id fs = callsOf (frameDecoder.feed [] (readsOf id es)).1

section Refines

variable {env : Env} {g : GameServer} {es : List NetEvent} {a a' : AsioServer}
  {fs : List ServerEvent} {e : NetEvent}

theorem refines_init (env : Env) (hinit : ServerInit g) : Refines env g [] { game := g } [] where
  run := .nil
  numbered id hid := by
    rw [hinit.net] at hid
    cases hid
  next := rfl
  known id hid := by cases hid
  silent _ _ := rfl
  collected id b hb := by cases hb
  frames_le _ := List.nil_prefix
  frames_eq _ _ := rfl

/-- An event that is no read and no connection leaves the books as they are. -/
theorem Refines.quiet (h : Refines env g es a fs) (e : NetEvent)
    (hreads : ∀ id, readsOf id [e] = []) (haccepts : accepts [e] = 0) :
    Refines env g (es ++ [e]) a fs := by
  have hreads' : ∀ id, readsOf id (es ++ [e]) = readsOf id es := fun id => by
    rw [readsOf_append, hreads, List.append_nil]
  have hcount : accepts (es ++ [e]) = accepts es := by
    rw [accepts_append, haccepts]
    rfl
  refine ⟨h.run, ?_, ?_, ?_, ?_, ?_, ?_, ?_⟩
  all_goals simp only [hreads', hcount]
  exacts [h.numbered, h.next, h.known, h.silent, h.collected, h.frames_le, h.frames_eq]

/-- An event of the game server that is no frame and no connection. -/
theorem Refines.event (h : Refines env g es a fs) {se : ServerEvent} {t : GameServer}
    (hstep : ServerStep env a.game se t) (hframes : ∀ id, framesOf id [se] = [])
    (haccept : ∀ id now, se ≠ .accept id now) :
    Refines env g es { a with game := t } (fs ++ [se]) :=
  { h with
    run := h.run.snoc hstep
    numbered := h.numbered.step hstep haccept
    frames_le := fun id => by
      rw [framesOf_append, hframes, List.append_nil]
      exact h.frames_le id
    frames_eq := fun hfree id => by
      rw [framesOf_append, hframes, List.append_nil]
      exact h.frames_eq (hstep.free_before hfree) id }

/-- After an error the channel does not read any more. -/
theorem Refines.stopReading (h : Refines env g es a fs) {channelId : Int32} {b : ReceiveBuffer}
    (hb : a.buffers.lookup channelId = some b) :
    Refines env g es
      { a with buffers := a.buffers.insert channelId { b with reading := false } } fs :=
  { h with
    known := fun id hid => by
      rcases (AList.mem_insert _).mp hid with rfl | hid
      · exact h.known _ (mem_of_lookup hb)
      · exact h.known id hid
    silent := fun id hid => h.silent id fun hmem => hid ((AList.mem_insert _).mpr (.inr hmem))
    collected := fun id c hc => by
      rcases lookup_insert_eq_some.mp hc with ⟨rfl, rfl⟩ | ⟨-, hc⟩
      · exact ⟨(h.collected _ b hb).inside, (h.collected _ b hb).unread⟩
      · exact h.collected id c hc }

/-- A new connection gets the next id. -/
theorem Refines.accepted (h : Refines env g es a fs) (hmtx : a.game.mtx = false)
    (hn : accepts es < 2 ^ 32) (now : Nat) :
    Refines env g (es ++ [.accepted now]) (step env a (.accepted now))
      (fs ++ [.accept a.nextChannelId now]) := by
  have hnet : a.nextChannelId ∉ a.game.net := by
    rw [h.next]
    exact idOf_fresh hn h.numbered
  have hnew : a.nextChannelId ∉ a.buffers := by
    rw [h.next]
    exact idOf_fresh hn h.known
  have hcount : accepts (es ++ [.accepted now]) = accepts es + 1 := accepts_append ..
  have hreads : ∀ id, readsOf id (es ++ [.accepted now]) = readsOf id es := fun id => by
    rw [readsOf_append]
    exact List.append_nil _
  have hframes : ∀ id, framesOf id (fs ++ [.accept a.nextChannelId now]) = framesOf id fs :=
    fun id => by
      rw [framesOf_append]
      exact List.append_nil _
  -- the new id is the last of the numbers
  have hnumber : ∀ {P : Int32 → Prop}, (∀ id, P id → ∃ k < accepts es, id = idOf k) →
      ∀ id, id = a.nextChannelId ∨ P id → ∃ k < accepts es + 1, id = idOf k := by
    rintro P hP id (rfl | hid)
    · exact ⟨accepts es, Nat.lt_succ_self _, h.next⟩
    · obtain ⟨k, hk, heq⟩ := hP id hid
      exact ⟨k, hk.trans (Nat.lt_succ_self _), heq⟩
  refine ⟨h.run.snoc ⟨⟨hmtx, hnet⟩, rfl⟩, ?_, ?_, ?_, ?_, ?_, ?_, ?_⟩
  · intro id hid
    simp only [AsioServer.step, after_ok (acceptChannel_ok hmtx ..)] at hid
    rw [hcount]
    exact hnumber h.numbered id ((AList.mem_insert _).mp hid)
  · rw [hcount, ← idOf_succ, ← h.next]
    rfl
  · intro id hid
    rw [hcount]
    exact hnumber h.known id ((AList.mem_insert _).mp hid)
  · intro id hid
    rw [hreads]
    exact h.silent id fun hmem => hid ((AList.mem_insert _).mpr (.inr hmem))
  · intro id b hb
    rw [hreads]
    rcases lookup_insert_eq_some.mp hb with ⟨rfl, rfl⟩ | ⟨-, hb⟩
    · rw [h.silent _ hnew]
      exact collected_nil
    · exact h.collected id b hb
  · intro id
    rw [hreads, hframes]
    exact h.frames_le id
  · intro _ id
    rw [hreads, hframes]
    exact h.frames_eq hmtx id

/-- A read is one message after the other. -/
theorem Refines.read (h : Refines env g es a fs) {channelId : Int32} {b : ReceiveBuffer}
    (hb : a.buffers.lookup channelId = some b) (hmtx : a.game.mtx = false) (r : Read)
    (htimely : Timely env a (.read channelId r)) :
    ∃ fs', Refines env g (es ++ [.read channelId r]) (step env a (.read channelId r))
      (fs ++ fs') := by
  have hcollected := h.collected channelId b hb
  obtain ⟨b', -, hb', hstep⟩ := step_read env hb hcollected r
  simp only [Timely, hb, Option.elim_some, ReceiveBuffer.unread, hcollected.unread] at htimely
  obtain ⟨fs', hrun, honly, hle, heq⟩ := handle_run _ _ htimely
  have hmem : channelId ∈ a.buffers := mem_of_lookup hb
  have hcount : accepts (es ++ [.read channelId r]) = accepts es := accepts_append ..
  have hself : readsOf channelId (es ++ [.read channelId r])
      = readsOf channelId es ++ [r.bytes] := by
    rw [readsOf_append]
    simp [readsOf]
  have hother : ∀ id, id ≠ channelId → readsOf id (es ++ [.read channelId r]) = readsOf id es := by
    intro id hne
    rw [readsOf_append]
    simp [readsOf, hne.symm]
  have hcalls : callsOf (frameDecoder.feed [] (readsOf channelId es ++ [r.bytes])).1
      = framesOf channelId fs ++ callsOf (frameDecoder.drain
        ((frameDecoder.feed [] (readsOf channelId es)).2 ++ r.bytes)).1 := by
    rw [feed_snoc, callsOf_append, h.frames_eq hmtx]
  rw [hstep]
  refine ⟨fs', h.run.append hrun, ?_, ?_, ?_, ?_, ?_, ?_, ?_⟩
  · rw [hcount]
    exact h.numbered.frames hrun honly
  · rw [hcount]
    exact h.next
  · intro id hid
    rw [hcount]
    rcases (AList.mem_insert _).mp hid with rfl | hid
    · exact h.known _ hmem
    · exact h.known id hid
  · intro id hid
    have hne : id ≠ channelId := fun heq => hid ((AList.mem_insert _).mpr (.inl heq))
    rw [hother id hne]
    exact h.silent id fun hmem => hid ((AList.mem_insert _).mpr (.inr hmem))
  · intro id c hc
    rcases lookup_insert_eq_some.mp hc with ⟨rfl, rfl⟩ | ⟨hne, hc⟩
    · rw [hself]
      exact hb'
    · rw [hother id hne]
      exact h.collected id c hc
  · intro id
    rw [framesOf_append]
    by_cases hid : id = channelId
    · subst hid
      rw [hself, hcalls]
      exact (List.prefix_append_right_inj _).mpr hle
    · rw [hother id hid, honly.framesOf_ne hid, List.append_nil]
      exact h.frames_le id
  · intro hfree id
    rw [framesOf_append]
    by_cases hid : id = channelId
    · subst hid
      rw [hself, hcalls, heq hfree]
    · rw [hother id hid, honly.framesOf_ne hid, List.append_nil]
      exact h.frames_eq hmtx id

/-- **One step** of the network is some steps of the server. -/
theorem Refines.step (h : Refines env g es a fs) (hn : accepts (es ++ [e]) ≤ 2 ^ 32)
    (hstep : guarded (Timely env) (NetStep env) a e a') :
    ∃ fs', Refines env g (es ++ [e]) a' fs' := by
  obtain ⟨htimely, hpossible, rfl⟩ := hstep
  cases e with
  | acceptError => exact ⟨fs, h.quiet _ (fun _ => rfl) rfl⟩
  | accepted now =>
    rw [accepts_append] at hn
    exact ⟨_, h.accepted hpossible (Nat.lt_of_lt_of_le (Nat.lt_succ_self _) hn) now⟩
  | read channelId r =>
    obtain ⟨hmtx, hreading⟩ := hpossible
    obtain ⟨b, hb, -⟩ := Option.map_eq_some_iff.mp hreading
    obtain ⟨fs', hfs'⟩ := h.read hb hmtx r htimely
    exact ⟨_, hfs'⟩
  | readError channelId =>
    obtain ⟨hmtx, hreading⟩ := hpossible
    obtain ⟨b, hb, -⟩ := Option.map_eq_some_iff.mp hreading
    have hstep : ServerStep env a.game (.readError channelId) _ := ⟨hmtx, rfl⟩
    have hevent := (h.quiet (.readError channelId) (fun _ => rfl) rfl).event hstep
      (fun _ => rfl) fun _ _ heq => by cases heq
    refine ⟨fs ++ [.readError channelId], ?_⟩
    simp only [AsioServer.step, hb]
    exact hevent.stopReading hb
  | server se =>
    obtain ⟨hinternal, henabled⟩ := hpossible
    refine ⟨_, (h.quiet (.server se) (fun _ => rfl) rfl).event ⟨henabled, rfl⟩ ?_ ?_⟩
    · intro id
      cases se with
      | frame => cases hinternal
      | _ => rfl
    · rintro id now rfl
      cases hinternal

end Refines

/-- **The sockets refine the frames**: a run in which all reads are timely and at most 2³²
connections come in is a run of frames with the same end. In it the frames of each channel are
those that the decoder finds in the reads of this channel; only if the io thread got stuck, the
last of them may not have been handled. -/
theorem network_run {env : Env} {g : GameServer} (hinit : ServerInit g) {es : List NetEvent}
    {a : AsioServer} (hrun : Run (guarded (Timely env) (NetStep env)) { game := g } es a)
    (hn : accepts es ≤ 2 ^ 32) : ∃ fs, Refines env g es a fs := by
  induction hrun with
  | nil => exact ⟨[], refines_init env hinit⟩
  | @snoc es _ _ e _ hstep ih =>
    have hle : accepts es ≤ accepts (es ++ [e]) := by
      rw [accepts_append]
      exact Nat.le_add_right ..
    obtain ⟨fs, hfs⟩ := ih (hle.trans hn)
    exact hfs.step hn hstep

/-- **Every client is served**: let the clients send whole frames, cut and interleaved in any
way, over at most 2³² connections, and let all reads be timely. Then the server has done what
`ServerStep` does for a sequence of frames in which each channel has exactly the intact frames
of its client, in their order; while the io thread is not stuck, all of them. -/
theorem network_refines {env : Env} {g : GameServer} (hinit : ServerInit g)
    {es : List NetEvent} {a : AsioServer}
    (hrun : Run (guarded (Timely env) (NetStep env)) { game := g } es a)
    (hn : accepts es ≤ 2 ^ 32) (sent : Int32 → List Frame)
    (hcut : ∀ id, (readsOf id es).flatten = (sent id).flatMap Frame.bytes) :
    ∃ fs, Run (ServerStep env) g fs a.game
      ∧ (∀ id, framesOf id fs <+: ((sent id).filter Frame.intact).map callOf)
      ∧ (a.game.mtx = false →
        ∀ id, framesOf id fs = ((sent id).filter Frame.intact).map callOf) := by
  obtain ⟨fs, h⟩ := network_run hinit hrun hn
  have hcalls : ∀ id, callsOf (frameDecoder.feed [] (readsOf id es)).1
      = ((sent id).filter Frame.intact).map callOf := fun id => by
    rw [frameDecoder_recognises.feed_encoded frameDecoder_nil (hcut id), callsOf_parsed]
  refine ⟨fs, h.run, fun id => ?_, fun hfree id => ?_⟩
  · rw [← hcalls]
    exact h.frames_le id
  · rw [← hcalls]
    exact h.frames_eq hfree id

/-- Two connections, and a PING on the second that is cut into two reads. -/
theorem network_refines_cut : ∃ (ping : Frame) (r₁ r₂ : Read) (a : AsioServer),
    callOf ping = (1, []) ∧ r₁.bytes ++ r₂.bytes = ping.bytes
    ∧ Run (guarded (Timely plainEnv) (NetStep plainEnv)) { game := plainServer false {} }
      [.accepted 0, .accepted 0, .read 2 r₁, .read 2 r₂] a
    ∧ ∃ fs, Run (ServerStep plainEnv) (plainServer false {}) fs a.game
      ∧ (∀ id, framesOf id fs
        <+: ((if id = 2 then [ping] else []).filter Frame.intact).map callOf) := by
  let ping := bareFrame 1
  let r₁ : Read := ⟨ping.bytes.take 5, by decide, by decide⟩
  let r₂ : Read := ⟨ping.bytes.drop 5, by decide, by decide⟩
  have hcut : r₁.bytes ++ r₂.bytes = ping.bytes := List.take_append_drop 5 _
  have hwait : frameDecoder.drain r₁.bytes = ([], some r₁.bytes) :=
    Decoder.drain_wait (attempt_incomplete ping.size_le hcut (by decide))
  let a₀ : AsioServer := { game := plainServer false {} }
  let a₁ := step plainEnv a₀ (.accepted 0)
  let a₂ := step plainEnv a₁ (.accepted 0)
  have hlookup : a₂.buffers.lookup 2 = some {} := by decide
  -- the first read is kept in the buffer
  obtain ⟨b, hreading, hb, hstep⟩ := step_read plainEnv hlookup collected_nil r₁
  have hnone : (frameDecoder.drain ((frameDecoder.feed [] []).2 ++ r₁.bytes)).1 = [] :=
    congrArg Prod.fst hwait
  rw [hnone] at hstep
  let a₃ : AsioServer := { a₂ with buffers := a₂.buffers.insert 2 b }
  have hlookup' : a₃.buffers.lookup 2 = some b := AList.lookup_insert _
  have hunread : b.unread ++ r₂.bytes = ping.bytes := by
    have hrest : (frameDecoder.feed [] [r₁.bytes]).2 = r₁.bytes := by
      rw [Decoder.feed, List.nil_append, hwait]
      rfl
    rw [ReceiveBuffer.unread, hb.unread, List.nil_append, hrest, hcut]
  have hpart : guarded (Timely plainEnv) (NetStep plainEnv) a₂ (.read 2 r₁) a₃ := by
    refine ⟨?_, ⟨rfl, rfl⟩, hstep⟩
    show InTime plainEnv 2 (frameDecoder.drain r₁.bytes).1 a₂.game
    rw [hwait]
    trivial
  have hwhole : guarded (Timely plainEnv) (NetStep plainEnv) a₃ (.read 2 r₂)
      (step plainEnv a₃ (.read 2 r₂)) := by
    refine ⟨?_, ⟨rfl, by rw [hlookup', Option.map_some, hreading]⟩, rfl⟩
    have hdrain := frameDecoder_recognises.drain_flatMap [ping] frameDecoder_nil
    rw [List.flatMap_singleton] at hdrain
    rw [Timely, hlookup', Option.elim_some, hunread, hdrain]
    exact ⟨fun _ _ => show 2 ∈ a₂.game.channels by decide, trivial⟩
  have haccept : ∀ a : AsioServer, a.game.mtx = false → guarded (Timely plainEnv)
      (NetStep plainEnv) a (.accepted 0) (step plainEnv a (.accepted 0)) :=
    fun a hfree => ⟨trivial, hfree, rfl⟩
  have hrun := (((Run.single (haccept a₀ rfl)).snoc (haccept a₁ rfl)).snoc hpart).snoc hwhole
  obtain ⟨fs, hfs, hle, -⟩ := network_refines (plainServer_init false {}) hrun
    (show 2 ≤ 2 ^ 32 by norm_num) (fun id => if id = 2 then [ping] else []) fun id => by
      by_cases hid : id = 2
      · subst hid
        simp [readsOf, r₁, r₂]
      · simp [readsOf, hid, Ne.symm hid]
  exact ⟨ping, r₁, r₂, _, rfl, hcut, hrun, fs, hfs, hle⟩

end AsioServer

end EcsAsioServer.GameServer
