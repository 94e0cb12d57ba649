import EcsAsioServer.Protocol.Wire

/-!
# Components (`server/game/components`)

The component types that the message handlers create and read, with their
constructors and member functions, and the index type that stands for
`std::type_index`.
-/

namespace EcsAsioServer.Ecs

open Protocol

/-- `Position`. -/
structure Position where
  x : F32 := .zero
  y : F32 := .zero
  z : F32 := .zero
deriving DecidableEq, Repr

/-- `Velocity`. -/
structure Velocity where
  x : F32 := .zero
  y : F32 := .zero
  z : F32 := .zero
deriving DecidableEq, Repr

/-- `Health`. -/
structure Health where
  hp : UInt32
  maxHp : UInt32
  mp : UInt32
  maxMp : UInt32
  isAlive : Bool
deriving DecidableEq, Repr

/-- The constructor: full hit points. -/
def Health.make (maxHp : UInt32 := 100) (maxMp : UInt32 := 50) : Health :=
  { hp := maxHp, maxHp, mp := maxMp, maxMp, isAlive := true }

/-- `Player`. -/
structure Player where
  playerName : List UInt8
  playerId : UInt32
  level : UInt32
  experience : UInt32
  mapId : UInt32
  channelId : Int32
deriving DecidableEq, Repr

/-- The constructor: level and experience are not arguments. -/
def Player.make (name : List UInt8) (id : UInt32) (channelId : Int32 := -1)
    (mapId : UInt32 := 1) : Player :=
  { playerName := name, playerId := id, level := 1, experience := 0, mapId, channelId }

/-- The component types of the message handlers. -/
inductive ComponentType where
  | position | velocity | health | player
deriving DecidableEq, Repr

/-- The values of a component type. -/
def ComponentType.Val : ComponentType → Type
  | .position => Position
  | .velocity => Velocity
  | .health => Health
  | .player => Player

end EcsAsioServer.Ecs
