import EcsAsioServer.Lib.Placement
import EcsAsioServer.Game.Handlers
import EcsAsioServer.Threading.MapThread

/-!
# The map threads and their players (`server/game/threading/map_thread_manager.{hpp,cpp}`)

The manager has the map threads, each with the set of its players, and
`player_map_mapping_`, which says for each channel on which map it is. The functions that
move players take the map from their caller and do not look into the mapping.

The two are a `Placement`: `placement_apply` says that each function is the operation of
the same name there, and `membership_iff` says in which runs the mapping is right. Those in
which a caller is wrong about the map, or in which the destination of a move does not
exist, or in which a map with players is destroyed, are not among them.
-/

namespace EcsAsioServer.Threading

open Ecs Protocol Transition

variable {K : Type}

/-- `MapThreadManager`, with the service that all map threads share and the `static` seed of
`spawn_monsters`. -/
structure MapThreadManager (K : Type) where
  ecs : Service K := {}
  seed : UInt32 := 42
  mapThreads : AList fun _ : Int32 => MapThread K := ∅
  playerMapMapping : ChannelMap Int32 := ∅

namespace MapThreadManager

/-- The map thread that `map_threads_.find` finds does something. -/
def onMap (mapId : Int32) (f : MapState K → MapState K) (m : MapThreadManager K) :
    MapThreadManager K :=
  match m.mapThreads.lookup mapId with
  | some thread =>
    let s := f ⟨thread, m.ecs, m.seed⟩
    { m with ecs := s.ecs, seed := s.seed, mapThreads := m.mapThreads.insert mapId s.thread }
  | none => m

/-- `update_player_map`. -/
def updatePlayerMap (channelId mapId : Int32) (m : MapThreadManager K) : MapThreadManager K :=
  { m with playerMapMapping := m.playerMapMapping.insert channelId mapId }

/-- `get_player_map`. -/
def getPlayerMap (m : MapThreadManager K) (channelId : Int32) : Int32 :=
  (m.playerMapMapping.lookup channelId).getD (-1)

/-- `create_map_thread`. -/
def createMapThread [Field K] (mapId : Int32) (mapName : List UInt8) (width height : K)
    (maxPlayers : Int32) (m : MapThreadManager K) : MapThreadManager K :=
  if mapId ∈ m.mapThreads then m
  else
    let (thread, ecs) := MapThread.make mapId mapName width height maxPlayers m.ecs
    { m with ecs, mapThreads := m.mapThreads.insert mapId { thread with running := true } }

/-- The components of the map stay, and so do the entries of its players. -/
def destroyMapThread (mapId : Int32) (m : MapThreadManager K) : MapThreadManager K :=
  { m with mapThreads := m.mapThreads.erase mapId }

/-- `send_packet_to_map`. -/
def sendPacketToMap (mapId : Int32) (packet : Packet) (m : MapThreadManager K) :
    MapThreadManager K :=
  m.onMap mapId fun s => { s with thread := s.thread.addPacket packet }

/-- `add_player_to_map`. -/
def addPlayerToMap (mapId channelId : Int32) (playerEntity : Entity) (m : MapThreadManager K) :
    MapThreadManager K :=
  if mapId ∈ m.mapThreads then
    (m.onMap mapId (MapState.addPlayer channelId playerEntity)).updatePlayerMap channelId mapId
  else m

/-- `remove_player_from_map`. -/
def removePlayerFromMap (mapId channelId : Int32) (m : MapThreadManager K) :
    MapThreadManager K :=
  if mapId ∈ m.mapThreads then
    let m := m.onMap mapId (MapState.removePlayer channelId)
    { m with playerMapMapping := m.playerMapMapping.erase channelId }
  else m

/-- The player gets a new entity, "for the time being". -/
def movePlayerToMap (channelId fromMap toMap : Int32) (m : MapThreadManager K) :
    MapThreadManager K :=
  let m := m.onMap fromMap (MapState.removePlayer channelId)
  if toMap ∈ m.mapThreads then
    let (playerEntity, ecs) := m.ecs.createEntity
    let m := onMap toMap (MapState.addPlayer channelId playerEntity) { m with ecs }
    m.updatePlayerMap channelId toMap
  else m

/-- `is_map_thread_running`. -/
def isMapThreadRunning (m : MapThreadManager K) (mapId : Int32) : Bool :=
  (m.mapThreads.lookup mapId).elim false (·.running)

/-- `get_map_player_count`. -/
def getMapPlayerCount (m : MapThreadManager K) (mapId : Int32) : Nat :=
  (m.mapThreads.lookup mapId).elim 0 (·.playerCount)

/-- `update_all_map_threads`. -/
def updateAllMapThreads [Field K] [LinearOrder K] (dt : K) (m : MapThreadManager K) :
    MapThreadManager K :=
  m.mapThreads.keys.foldl
    (fun m mapId => if m.isMapThreadRunning mapId then m.onMap mapId (MapState.updateMap dt) else m)
    m

/-! ## Operations on players -/

/-- What the calls about players do one after the other keeps a property. -/
structure KeptForPlayers (P : MapThreadManager K → Prop) : Prop where
  add : ∀ m mapId channelId entity, P m → P (onMap mapId (MapState.addPlayer channelId entity) m)
  remove : ∀ m mapId channelId, P m → P (onMap mapId (MapState.removePlayer channelId) m)
  createEntity : ∀ m, P m → P { m with ecs := m.ecs.createEntity.2 }
  mapping : ∀ m table, P m → P { m with playerMapMapping := table }

namespace KeptForPlayers

variable {P : MapThreadManager K → Prop} {m : MapThreadManager K}

theorem addPlayerToMap (hP : KeptForPlayers P) (h : P m) (mapId channelId : Int32)
    (playerEntity : Entity) : P (m.addPlayerToMap mapId channelId playerEntity) := by
  unfold MapThreadManager.addPlayerToMap
  split
  · exact hP.mapping _ _ (hP.add m mapId channelId playerEntity h)
  · exact h

theorem removePlayerFromMap (hP : KeptForPlayers P) (h : P m) (mapId channelId : Int32) :
    P (m.removePlayerFromMap mapId channelId) := by
  unfold MapThreadManager.removePlayerFromMap
  split
  · exact hP.mapping _ _ (hP.remove m mapId channelId h)
  · exact h

theorem movePlayerToMap (hP : KeptForPlayers P) (h : P m) (channelId fromMap toMap : Int32) :
    P (m.movePlayerToMap channelId fromMap toMap) := by
  have hremoved := hP.remove m fromMap channelId h
  unfold MapThreadManager.movePlayerToMap
  dsimp only
  split
  · exact hP.mapping _ _ (hP.add _ toMap channelId _ (hP.createEntity _ hremoved))
  · exact hremoved

end KeptForPlayers

/-- The players of each map, and the mapping. -/
def placement (m : MapThreadManager K) : Placement Int32 Int32 where
  members mapId := (m.mapThreads.lookup mapId).map (·.localPlayers)
  table channelId := m.playerMapMapping.lookup channelId

theorem exists_placement {m : MapThreadManager K} {mapId : Int32} :
    m.placement.Exists mapId ↔ mapId ∈ m.mapThreads := by
  unfold Placement.Exists placement
  rw [Option.isSome_map]
  exact AList.lookup_isSome

theorem placement_onMap (m : MapThreadManager K) (mapId : Int32) {f : MapState K → MapState K}
    {g : Finset Int32 → Finset Int32}
    (hf : ∀ s, (f s).thread.localPlayers = g s.thread.localPlayers) :
    (m.onMap mapId f).placement = { m.placement with
      members := Function.update m.placement.members mapId
        ((m.placement.members mapId).map g) } := by
  unfold onMap
  cases hthread : m.mapThreads.lookup mapId with
  | none =>
    have hnone : (m.placement.members mapId).map g = m.placement.members mapId := by
      simp [placement, hthread]
    rw [hnone, Function.update_eq_self]
  | some thread =>
    simp only [placement, Placement.mk.injEq, and_true]
    funext id
    by_cases hid : id = mapId
    · subst hid
      simp [hthread, hf]
    · simp [hid, AList.lookup_insert_ne hid]

theorem placement_addPlayer (m : MapThreadManager K) (mapId channelId : Int32) (entity : Entity) :
    (m.onMap mapId (MapState.addPlayer channelId entity)).placement
      = m.placement.insertAt mapId channelId :=
  m.placement_onMap mapId fun _ => rfl

theorem placement_removePlayer (m : MapThreadManager K) (mapId channelId : Int32) :
    (m.onMap mapId (MapState.removePlayer channelId)).placement
      = m.placement.eraseAt mapId channelId :=
  m.placement_onMap mapId fun _ => rfl

theorem placement_updatePlayerMap (m : MapThreadManager K) (channelId mapId : Int32) :
    (m.updatePlayerMap channelId mapId).placement =
      m.placement.setTable channelId (some mapId) := by
  simp only [placement, updatePlayerMap, Placement.setTable, Placement.mk.injEq, true_and]
  funext id
  by_cases hid : id = channelId
  · subst hid
    simp
  · simp [hid, AList.lookup_insert_ne hid]

section Ops

variable [Field K]

/-- A call that concerns the players. -/
inductive MapOp (K : Type) where
  | create (mapId : Int32) (mapName : List UInt8) (width height : K) (maxPlayers : Int32)
  | destroy (mapId : Int32)
  | add (mapId channelId : Int32) (playerEntity : Entity)
  | remove (mapId channelId : Int32)
  | move (channelId fromMap toMap : Int32)

/-- One call. -/
def apply (m : MapThreadManager K) : MapOp K → MapThreadManager K
  | .create mapId mapName width height maxPlayers =>
    m.createMapThread mapId mapName width height maxPlayers
  | .destroy mapId => m.destroyMapThread mapId
  | .add mapId channelId playerEntity => m.addPlayerToMap mapId channelId playerEntity
  | .remove mapId channelId => m.removePlayerFromMap mapId channelId
  | .move channelId fromMap toMap => m.movePlayerToMap channelId fromMap toMap

/-- One call. -/
def OpStep (m : MapThreadManager K) (op : MapOp K) (m' : MapThreadManager K) : Prop :=
  m.apply op = m'

/-- What the call means for maps and players. -/
def MapOp.placement : MapOp K → Placement.Op Int32 Int32
  | .create mapId _ _ _ _ => .create mapId
  | .destroy mapId => .destroy mapId
  | .add mapId channelId _ => .add mapId channelId
  | .remove mapId channelId => .remove mapId channelId
  | .move channelId fromMap toMap => .move channelId fromMap toMap

theorem placement_create (m : MapThreadManager K) (mapId : Int32) (mapName : List UInt8)
    (width height : K) (maxPlayers : Int32) :
    (m.createMapThread mapId mapName width height maxPlayers).placement
      = m.placement.create mapId := by
  unfold createMapThread Placement.create
  by_cases hmem : mapId ∈ m.mapThreads
  · rw [if_pos hmem]
    have hsome : some ((m.placement.members mapId).getD ∅) = m.placement.members mapId := by
      obtain ⟨thread, hthread⟩ := exists_lookup hmem
      simp [placement, hthread]
    rw [hsome, Function.update_eq_self]
  · rw [if_neg hmem]
    simp only [placement, Placement.mk.injEq, and_true]
    funext id
    by_cases hid : id = mapId
    · subst hid
      simp [AList.lookup_eq_none.mpr hmem, MapThread.make]
    · simp [hid, AList.lookup_insert_ne hid]

omit [Field K] in
theorem placement_destroy (m : MapThreadManager K) (mapId : Int32) :
    (m.destroyMapThread mapId).placement = m.placement.destroy mapId := by
  simp only [placement, destroyMapThread, Placement.destroy, Placement.mk.injEq, and_true]
  funext id
  by_cases hid : id = mapId
  · subst hid
    simp
  · simp [hid, AList.lookup_erase_ne hid]

omit [Field K] in
theorem placement_remove (m : MapThreadManager K) (mapId channelId : Int32) :
    (m.removePlayerFromMap mapId channelId).placement
      = m.placement.remove mapId channelId := by
  unfold removePlayerFromMap Placement.remove
  by_cases hmem : mapId ∈ m.mapThreads
  · rw [if_pos hmem, if_pos (exists_placement.mpr hmem), ← placement_removePlayer]
    simp only [placement, Placement.setTable, Placement.mk.injEq, true_and]
    funext id
    by_cases hid : id = channelId
    · subst hid
      simp
    · simp [hid, AList.lookup_erase_ne hid]
  · rw [if_neg hmem, if_neg fun h => hmem (exists_placement.mp h)]

omit [Field K] in
theorem placement_add (m : MapThreadManager K) (mapId channelId : Int32) (entity : Entity) :
    (m.addPlayerToMap mapId channelId entity).placement = m.placement.add mapId channelId := by
  unfold addPlayerToMap Placement.add
  by_cases hmem : mapId ∈ m.mapThreads
  · rw [if_pos hmem, if_pos (exists_placement.mpr hmem), placement_updatePlayerMap,
      placement_addPlayer]
  · rw [if_neg hmem, if_neg fun h => hmem (exists_placement.mp h)]

omit [Field K] in
theorem placement_move (m : MapThreadManager K) (channelId fromMap toMap : Int32) :
    (m.movePlayerToMap channelId fromMap toMap).placement
      = m.placement.move channelId fromMap toMap := by
  unfold movePlayerToMap Placement.move Placement.add
  rw [← placement_removePlayer]
  generalize m.onMap fromMap (MapState.removePlayer channelId) = m
  by_cases hmem : toMap ∈ m.mapThreads
  · rw [if_pos hmem, if_pos (exists_placement.mpr hmem), placement_updatePlayerMap,
      placement_addPlayer]
    rfl
  · rw [if_neg hmem, if_neg fun h => hmem (exists_placement.mp h)]

/-- **Each function is the operation of its name** on the players and the mapping. -/
theorem placement_apply (m : MapThreadManager K) (op : MapOp K) :
    (m.apply op).placement = m.placement.apply op.placement := by
  cases op with
  | create mapId mapName width height maxPlayers =>
    exact m.placement_create mapId mapName width height maxPlayers
  | destroy mapId => exact m.placement_destroy mapId
  | add mapId channelId entity => exact m.placement_add mapId channelId entity
  | remove mapId channelId => exact m.placement_remove mapId channelId
  | move channelId fromMap toMap => exact m.placement_move channelId fromMap toMap

/-- The caller is right about the map of the player, a move has a destination unless the
player is not there, and a map is empty when it is destroyed. -/
def CallerKnows (m : MapThreadManager K) (op : MapOp K) : Prop := m.placement.Knows op.placement

instance (m : MapThreadManager K) : DecidablePred m.CallerKnows :=
  fun op => inferInstanceAs (Decidable (m.placement.Knows op.placement))

/-- **Map membership.** The mapping is right all along exactly in the runs in which all
callers are right; and a move to a map that does not exist leaves everybody where they are
exactly if its caller is. -/
theorem membership_iff (ecs : Service K) (seed : UInt32) (ops : List (MapOp K))
    (m : MapThreadManager K) :
    (Run (staying (fun m => m.placement.Matches) OpStep) { ecs, seed } ops m ↔
      Run (guarded CallerKnows OpStep) { ecs, seed } ops m) ∧
    (Run (guarded CallerKnows OpStep) { ecs, seed } ops m →
      ∀ channelId fromMap toMap, toMap ∉ m.mapThreads →
        ((m.movePlayerToMap channelId fromMap toMap).placement = m.placement ↔
          m.CallerKnows (.move channelId fromMap toMap))) := by
  have hinit : (placement ({ ecs, seed } : MapThreadManager K)).Matches := by
    rw [Placement.matches_iff]
    intro channelId mapId
    constructor
    · rintro ⟨⟩
    · rintro ⟨players, ⟨⟩, -⟩
  have hstep : ∀ (m : MapThreadManager K) op m', True → m.placement.Matches → OpStep m op m' →
      (m'.placement.Matches ↔ m.CallerKnows op) := by
    rintro m op m' - hm rfl
    rw [placement_apply]
    exact Placement.matches_apply_iff hm op.placement
  have hiff : Run (staying (fun m => m.placement.Matches) OpStep) { ecs, seed } ops m ↔
      Run (guarded CallerKnows OpStep) { ecs, seed } ops m :=
    Run.staying_iff (I := fun _ => True) trivial hinit (fun _ _ _ _ _ => trivial) hstep
  refine ⟨hiff, ?_⟩
  intro hrun channelId fromMap toMap hmissing
  have hmatches : m.placement.Matches := (hiff.mpr hrun).staying_end hinit
  rw [placement_move]
  exact Placement.move_eq_self_iff hmatches (fun h => hmissing (exists_placement.mp h))
    channelId fromMap

end Ops

/-- A player of map 1 is sent to a map that does not exist: they are on no map, and the
mapping has them on map 1. A second player is taken from the wrong map: they are on two. -/
theorem half_moved :
    let ops : List (MapOp ℚ) :=
      [.create 1 (ascii "Town") 1000 1000 100, .create 2 (ascii "Desert") 1000 1000 100,
        .add 1 7 70, .move 7 1 9, .add 1 8 80, .move 8 3 2]
    let m := ops.foldl apply {}
    Run OpStep {} ops m ∧
    m.playerMapMapping.lookup 7 = some 1 ∧ ¬ m.placement.At 7 1 ∧
    m.placement.At 8 1 ∧ m.placement.At 8 2 ∧ ¬ m.placement.Matches := by
  intro ops m
  have hfirst : m.placement.members 1 = some {8} := by decide +kernel
  have hsecond : m.placement.members 2 = some {8} := by decide +kernel
  have hat₁ : m.placement.At 8 1 := ⟨{8}, hfirst, by decide⟩
  have hat₂ : m.placement.At 8 2 := ⟨{8}, hsecond, by decide⟩
  refine ⟨Run.foldl apply {} ops, by decide +kernel, ?_, hat₁, hat₂, ?_⟩
  · rintro ⟨players, hplayers, hmem⟩
    rw [hfirst] at hplayers
    cases hplayers
    exact absurd hmem (by decide)
  · intro hmatches
    exact absurd (hmatches.unique hat₁ hat₂) (by decide)

end MapThreadManager

end EcsAsioServer.Threading
