import EcsAsioServer.Threading.Systems
import EcsAsioServer.Threading.Population

/-!
# The objects of a map (`components/map.hpp`, `systems/map_system.cpp`)

A `MapObjectsComponent` has four sets, for players, monsters, NPCs and items. `MapSystem` adds
an object to the set of its kind and removes it from the set of its kind, and the kind is read
off the components that the object has at that moment.

- `MapObjects.ofKind`, `add`, `remove`: the sets and the functions of the component, one lemma
  for all kinds each.
- `MapSystem.kindOf`: the kind. It may change between two calls (`KindChange`).
- `map_objects_iff`: an object is gone after it is removed exactly if it was in no set but
  that of the kind it has by then, and a map lists no object twice exactly as long as no object
  is added that is in the set of another kind.
-/

namespace EcsAsioServer.Threading

open Ecs Transition

variable {K : Type}

/-- The kinds of objects that a map lists. -/
inductive ObjectKind where
  | player | monster | npc | item
deriving DecidableEq, Repr

/-- The component that makes an object one of the kind. -/
def ObjectKind.simType : ObjectKind → SimType
  | .player => .player
  | .monster => .monster
  | .npc => .npc
  | .item => .item

theorem ObjectKind.simType_ne (k : ObjectKind) : SimType.mapObjects ≠ k.simType := by
  cases k <;> decide

namespace MapObjects

/-- The list of a kind. -/
def ofKind (o : MapObjects) : ObjectKind → List Entity
  | .player => o.players
  | .monster => o.monsters
  | .npc => o.npcs
  | .item => o.items

/-! ### The functions of the component -/

/-- `add_npc`. -/
def addNpc (o : MapObjects) (entity : Entity) : MapObjects :=
  { o with npcs := o.npcs.insert entity }

/-- `add_item`. -/
def addItem (o : MapObjects) (entity : Entity) : MapObjects :=
  { o with items := o.items.insert entity }

/-- `remove_player`. -/
def removePlayer (o : MapObjects) (entity : Entity) : MapObjects :=
  { o with players := o.players.erase entity }

/-- `remove_monster`. -/
def removeMonster (o : MapObjects) (entity : Entity) : MapObjects :=
  { o with monsters := o.monsters.erase entity }

/-- `remove_npc`. -/
def removeNpc (o : MapObjects) (entity : Entity) : MapObjects :=
  { o with npcs := o.npcs.erase entity }

/-- `remove_item`. -/
def removeItem (o : MapObjects) (entity : Entity) : MapObjects :=
  { o with items := o.items.erase entity }

/-- The function that adds an object of the kind. -/
def add : ObjectKind → MapObjects → Entity → MapObjects
  | .player => addPlayer
  | .monster => addMonster
  | .npc => addNpc
  | .item => addItem

/-- The function that removes one. -/
def remove : ObjectKind → MapObjects → Entity → MapObjects
  | .player => removePlayer
  | .monster => removeMonster
  | .npc => removeNpc
  | .item => removeItem

theorem ofKind_add (k k' : ObjectKind) (o : MapObjects) (e : Entity) :
    (add k o e).ofKind k' = if k' = k then (o.ofKind k').insert e else o.ofKind k' := by
  cases k <;> cases k' <;> rfl

theorem ofKind_remove (k k' : ObjectKind) (o : MapObjects) (e : Entity) :
    (remove k o e).ofKind k' = if k' = k then (o.ofKind k').erase e else o.ofKind k' := by
  cases k <;> cases k' <;> rfl

/-- The lists are sets. -/
def Sets (o : MapObjects) : Prop := ∀ k, (o.ofKind k).Nodup

/-- No object is in two of the sets. -/
def Separate (o : MapObjects) : Prop := ∀ e k k', e ∈ o.ofKind k → e ∈ o.ofKind k' → k = k'

variable {o : MapObjects} {e : Entity}

theorem Sets.add (h : o.Sets) (k : ObjectKind) (e : Entity) :
    (add k o e).Sets := by
  intro k'
  rw [ofKind_add]
  split
  · exact (h k').insert
  · exact h k'

theorem Sets.remove (h : o.Sets) (k : ObjectKind) (e : Entity) :
    (remove k o e).Sets := by
  intro k'
  rw [ofKind_remove]
  split
  · exact (h k').erase e
  · exact h k'

theorem mem_ofKind_add {k k' : ObjectKind} {e' : Entity} :
    e' ∈ (add k o e).ofKind k' ↔ (k' = k ∧ e' = e) ∨ e' ∈ o.ofKind k' := by
  rw [ofKind_add]
  by_cases hk : k' = k
  · simp [hk, List.mem_insert_iff]
  · simp [hk]

theorem mem_ofKind_remove (h : o.Sets) {k k' : ObjectKind} {e' : Entity} :
    e' ∈ (remove k o e).ofKind k' ↔ e' ∈ o.ofKind k' ∧ ¬(k' = k ∧ e' = e) := by
  rw [ofKind_remove]
  by_cases hk : k' = k
  · simp only [hk, if_pos, true_and]
    rw [(h k).mem_erase_iff, and_comm]
  · simp [hk]

/-- Adding keeps the sets apart exactly if the object is in no other set. -/
theorem Separate.add_iff (h : o.Separate) (k : ObjectKind) (e : Entity) :
    (add k o e).Separate ↔ ∀ k', e ∈ o.ofKind k' → k' = k := by
  constructor
  · intro hadd k' hmem
    exact hadd e k' k (mem_ofKind_add.mpr (.inr hmem)) (mem_ofKind_add.mpr (.inl ⟨rfl, rfl⟩))
  · intro honly e' k₁ k₂ h₁ h₂
    rcases mem_ofKind_add.mp h₁ with ⟨rfl, rfl⟩ | hold₁ <;>
      rcases mem_ofKind_add.mp h₂ with ⟨hk₂, he⟩ | hold₂
    · exact hk₂.symm
    · exact (honly k₂ hold₂).symm
    · rw [he] at hold₁
      exact (honly k₁ hold₁).trans hk₂.symm
    · exact h e' k₁ k₂ hold₁ hold₂

theorem Separate.remove (h : o.Separate) (hsets : o.Sets) (k : ObjectKind) (e : Entity) :
    (remove k o e).Separate := by
  intro e' k₁ k₂ h₁ h₂
  exact h e' k₁ k₂ ((mem_ofKind_remove hsets).mp h₁).1 ((mem_ofKind_remove hsets).mp h₂).1

/-- All objects, in the order of `get_objects_in_map`. -/
def all (o : MapObjects) : List Entity := o.players ++ o.monsters ++ o.npcs ++ o.items

theorem all_eq_flatMap (o : MapObjects) :
    o.all = [.player, .monster, .npc, .item].flatMap o.ofKind := by
  simp [all, ofKind]

theorem mem_all : e ∈ o.all ↔ ∃ k, e ∈ o.ofKind k := by
  rw [all_eq_flatMap, List.mem_flatMap]
  constructor
  · rintro ⟨k, -, hk⟩
    exact ⟨k, hk⟩
  · rintro ⟨k, hk⟩
    exact ⟨k, by cases k <;> simp, hk⟩

theorem nodup_all_iff (h : o.Sets) : o.all.Nodup ↔ o.Separate := by
  have hkinds : ([.player, .monster, .npc, .item] : List ObjectKind).Nodup := by decide
  have hsymm : Std.Symm (Function.onFun List.Disjoint o.ofKind) := ⟨fun _ _ h => h.symm⟩
  rw [all_eq_flatMap, List.nodup_flatMap, and_iff_right fun k _ => h k,
    ← hkinds.pairwise_coe]
  constructor
  · intro hdisjoint e k k' hk hk'
    by_contra hne
    exact hdisjoint (by cases k <;> simp) (by cases k' <;> simp) hne hk hk'
  · intro hseparate k _ k' _ hne e hk hk'
    exact hne (hseparate e k k' hk hk')

end MapObjects

theorem Service.objects_updateObjects_ne (gs : Service K) {mapEntity m : Entity}
    (h : m ≠ mapEntity) (f : MapObjects → MapObjects) :
    (gs.updateObjects mapEntity f).objects m = gs.objects m := by
  unfold updateObjects
  split
  · exact (congrFun (gs.component_addComponent .mapObjects mapEntity _) m).trans
      (Function.update_of_ne h ..)
  · rfl

/-! ## `MapSystem` -/

namespace MapSystem

/-- The kind that the chain of `has_component` finds. -/
def kindOf (gs : Service K) (entity : Entity) : Option ObjectKind :=
  if gs.hasComponent .player entity then some .player
  else if gs.hasComponent .monster entity then some .monster
  else if gs.hasComponent .npc entity then some .npc
  else if gs.hasComponent .item entity then some .item
  else none

/-- `add_object_to_map`. -/
def addObjectToMap (mapEntity objectEntity : Entity) (gs : Service K) : Service K :=
  match kindOf gs objectEntity with
  | some k => gs.updateObjects mapEntity (MapObjects.add k · objectEntity)
  | none => gs

/-- `remove_object_from_map`. -/
def removeObjectFromMap (mapEntity objectEntity : Entity) (gs : Service K) : Service K :=
  match kindOf gs objectEntity with
  | some k => gs.updateObjects mapEntity (MapObjects.remove k · objectEntity)
  | none => gs

/-- `get_total_object_count`. -/
def getTotalObjectCount (gs : Service K) (mapEntity : Entity) : Int32 :=
  match gs.objects mapEntity with
  | some o => Int32.ofNat (o.players.length + o.monsters.length + o.npcs.length + o.items.length)
  | none => 0

theorem getObjectsInMap_eq {gs : Service K} {m : Entity} {o : MapObjects}
    (h : gs.objects m = some o) : getObjectsInMap gs m = o.all := by
  rw [getObjectsInMap, h]
  rfl

/-- The count is the length of the list. -/
theorem getTotalObjectCount_eq (gs : Service K) (m : Entity) :
    getTotalObjectCount gs m = Int32.ofNat (getObjectsInMap gs m).length := by
  rw [getTotalObjectCount, getObjectsInMap]
  cases gs.objects m with
  | none => rfl
  | some o => simp only [List.length_append]

/-- A component that makes an object one of a kind comes or goes. -/
inductive KindChange (K : Type) where
  | add (k : ObjectKind) (component : SimType.Val K k.simType)
  | remove (k : ObjectKind)

/-- What a change does. -/
def KindChange.apply (entity : Entity) (gs : Service K) : KindChange K → Service K
  | .add k component => gs.addComponent k.simType entity component
  | .remove k => gs.removeComponent k.simType entity

/-- The calls that matter for the lists. -/
inductive ObjectOp (K : Type) where
  | change (entity : Entity) (c : KindChange K)
  | add (mapEntity objectEntity : Entity)
  | remove (mapEntity objectEntity : Entity)

/-- One call. -/
def apply (gs : Service K) : ObjectOp K → Service K
  | .change entity c => c.apply entity gs
  | .add mapEntity objectEntity => addObjectToMap mapEntity objectEntity gs
  | .remove mapEntity objectEntity => removeObjectFromMap mapEntity objectEntity gs

/-- One call. -/
def ObjectStep (gs : Service K) (op : ObjectOp K) (gs' : Service K) : Prop := apply gs op = gs'

section Steps

variable {gs : Service K} {m e : Entity} {o : MapObjects}

theorem objects_change (gs : Service K) (e m : Entity) (c : KindChange K) :
    (c.apply e gs).objects m = gs.objects m := by
  cases c with
  | add k component => exact gs.component_addComponent_ne k.simType_ne e m component
  | remove k => exact gs.component_removeComponent_ne k.simType_ne e m

theorem objects_changes (gs : Service K) (e m : Entity) (cs : List (KindChange K)) :
    (cs.foldl (KindChange.apply e) gs).objects m = gs.objects m := by
  induction cs generalizing gs with
  | nil => rfl
  | cons c cs ih => exact (ih _).trans (objects_change gs e m c)

/-- Something is done with the set of a kind, if there is a kind. -/
theorem objects_elim (f : ObjectKind → MapObjects → MapObjects) (k : Option ObjectKind)
    (h : gs.objects m = some o) :
    (k.elim gs fun k => gs.updateObjects m (f k)).objects m
      = some (k.elim o fun k => f k o) := by
  cases k with
  | none => exact h
  | some k =>
    rw [Option.elim_some, Service.objects_updateObjects, h]
    rfl

theorem objects_elim_ne (f : ObjectKind → MapObjects → MapObjects) (k : Option ObjectKind)
    {mapEntity : Entity} (hm : mapEntity ≠ m) (gs : Service K) :
    (k.elim gs fun k => gs.updateObjects mapEntity (f k)).objects m = gs.objects m := by
  cases k with
  | none => rfl
  | some k => exact gs.objects_updateObjects_ne (Ne.symm hm) _

theorem addObjectToMap_eq (mapEntity e : Entity) (gs : Service K) :
    addObjectToMap mapEntity e gs
      = (kindOf gs e).elim gs fun k => gs.updateObjects mapEntity (MapObjects.add k · e) := by
  unfold addObjectToMap
  cases kindOf gs e <;> rfl

theorem removeObjectFromMap_eq (mapEntity e : Entity) (gs : Service K) :
    removeObjectFromMap mapEntity e gs
      = (kindOf gs e).elim gs fun k => gs.updateObjects mapEntity (MapObjects.remove k · e) := by
  unfold removeObjectFromMap
  cases kindOf gs e <;> rfl

theorem objects_addObject (h : gs.objects m = some o) (e : Entity) :
    (addObjectToMap m e gs).objects m
      = some ((kindOf gs e).elim o fun k => MapObjects.add k o e) := by
  rw [addObjectToMap_eq]
  exact objects_elim (MapObjects.add · · e) _ h

theorem objects_removeObject (h : gs.objects m = some o) (e : Entity) :
    (removeObjectFromMap m e gs).objects m
      = some ((kindOf gs e).elim o fun k => MapObjects.remove k o e) := by
  rw [removeObjectFromMap_eq]
  exact objects_elim (MapObjects.remove · · e) _ h

/-- An object that is added to the map is in no set but that of its kind. -/
def FiledOnce (m : Entity) (gs : Service K) : ObjectOp K → Prop
  | .add mapEntity e => mapEntity = m → ∀ o, gs.objects m = some o →
      ∀ k, kindOf gs e = some k → ∀ k', e ∈ o.ofKind k' → k' = k
  | _ => True

/-- What a call does to the objects of the map. -/
theorem objects_apply (h : gs.objects m = some o) (hsets : o.Sets) (op : ObjectOp K) :
    ∃ o', (apply gs op).objects m = some o' ∧ o'.Sets ∧
      (o.Separate → (o'.Separate ↔ FiledOnce m gs op)) := by
  cases op with
  | change e c =>
    exact ⟨o, (objects_change gs e m c).trans h, hsets, fun hs => iff_of_true hs trivial⟩
  | add mapEntity e =>
    by_cases hm : mapEntity = m
    · subst hm
      refine ⟨_, objects_addObject h e, ?_⟩
      cases hkind : kindOf gs e with
      | none =>
        refine ⟨hsets, fun hs => iff_of_true hs ?_⟩
        intro _ o' _ k hk
        rw [hkind] at hk
        cases hk
      | some k =>
        refine ⟨hsets.add k e, fun hs => (hs.add_iff k e).trans ?_⟩
        constructor
        · intro honly _ o' ho' k' hk'
          rw [h] at ho'
          rw [hkind] at hk'
          cases ho'
          cases hk'
          exact honly
        · intro hfiled
          exact hfiled rfl o h k hkind
    · refine ⟨o, ?_, hsets, fun hs => iff_of_true hs fun hm' => absurd hm' hm⟩
      rw [apply, addObjectToMap_eq]
      exact (objects_elim_ne (MapObjects.add · · e) _ hm gs).trans h
  | remove mapEntity e =>
    by_cases hm : mapEntity = m
    · subst hm
      refine ⟨_, objects_removeObject h e, ?_⟩
      cases kindOf gs e with
      | none => exact ⟨hsets, fun hs => iff_of_true hs trivial⟩
      | some k => exact ⟨hsets.remove k e, fun hs => iff_of_true (hs.remove hsets k e) trivial⟩
    · refine ⟨o, ?_, hsets, fun hs => iff_of_true hs trivial⟩
      rw [apply, removeObjectFromMap_eq]
      exact (objects_elim_ne (MapObjects.remove · · e) _ hm gs).trans h

/-- An object is gone when it was in no set but that of its kind. -/
theorem not_mem_removeObject_iff (h : gs.objects m = some o) (hsets : o.Sets) (e : Entity) :
    e ∉ getObjectsInMap (removeObjectFromMap m e gs) m ↔
      ∀ k, e ∈ o.ofKind k → kindOf gs e = some k := by
  rw [getObjectsInMap_eq (objects_removeObject h e), MapObjects.mem_all, not_exists]
  refine forall_congr' fun k => ?_
  cases hkind : kindOf gs e with
  | none => simp
  | some k' =>
    rw [Option.elim_some, MapObjects.mem_ofKind_remove hsets]
    constructor
    · intro hgone hmem
      by_contra hne
      exact hgone ⟨hmem, fun hk => hne (congrArg some hk.1.symm)⟩
    · rintro hkinds ⟨hmem, hother⟩
      exact hother ⟨(Option.some.inj (hkinds hmem)).symm, rfl⟩

end Steps

/-- **Which objects are gone, and which are listed once.** Let an object be added to a map and
removed again, with any changes of its components in between. It is gone exactly if the kind
it has in the end is the one it had when it was added, and the kind of any set that it was in
already. A map lists nothing twice all along exactly in the runs in which no object is added
that is in the set of another kind. The count is always the length of the list. -/
theorem map_objects_iff {gs : Service K} {m : Entity} {o : MapObjects}
    (h : gs.objects m = some o) (hsets : o.Sets) :
    (∀ e (cs : List (KindChange K)),
      let changed := cs.foldl (KindChange.apply e) (addObjectToMap m e gs)
      e ∉ getObjectsInMap (removeObjectFromMap m e changed) m ↔
        ∀ k, kindOf gs e = some k ∨ e ∈ o.ofKind k → kindOf changed e = some k) ∧
    (∀ ops gs', (getObjectsInMap gs m).Nodup →
      (Run (staying (fun gs => (getObjectsInMap gs m).Nodup) ObjectStep) gs ops gs' ↔
        Run (guarded (FiledOnce m) ObjectStep) gs ops gs')) ∧
    ∀ gs' : Service K,
      getTotalObjectCount gs' m = Int32.ofNat (getObjectsInMap gs' m).length := by
  refine ⟨?_, ?_, fun gs' => getTotalObjectCount_eq gs' m⟩
  · intro e cs changed
    have hadded := objects_addObject h e
    have hchanged := (objects_changes (addObjectToMap m e gs) e m cs).trans hadded
    have hkeeps : ((kindOf gs e).elim o fun k => MapObjects.add k o e).Sets := by
      cases kindOf gs e with
      | none => exact hsets
      | some k => exact hsets.add k e
    rw [not_mem_removeObject_iff hchanged hkeeps]
    refine forall_congr' fun k => imp_congr_left ?_
    cases hkind : kindOf gs e with
    | none => simp
    | some k' =>
      simp only [Option.elim_some, MapObjects.mem_ofKind_add, and_true, Option.some.injEq]
      rw [eq_comm]
  · intro ops gs' hnodup
    let I : Service K → Prop := fun gs => ∃ o, gs.objects m = some o ∧ o.Sets
    refine Run.staying_iff (I := I) ⟨o, h, hsets⟩ hnodup ?_ ?_
    · rintro gs op gs' ⟨o, ho, hs⟩ rfl
      obtain ⟨o', ho', hs', -⟩ := objects_apply ho hs op
      exact ⟨o', ho', hs'⟩
    · rintro gs op gs' ⟨o, ho, hs⟩ hlist rfl
      obtain ⟨o', ho', hs', hiff⟩ := objects_apply ho hs op
      rw [getObjectsInMap_eq ho, MapObjects.nodup_all_iff hs] at hlist
      rw [getObjectsInMap_eq ho', MapObjects.nodup_all_iff hs', hiff hlist]

/-- A player. -/
def villager : Player :=
  { playerName := [75], playerId := 7, level := 1, experience := 0, mapId := 1, channelId := 7 }

/-- Entity 1 is a map and entity 2 a player. -/
def townWithPlayer : Service ℚ :=
  let gs : Service ℚ := GameService.addComponent {} .mapObjects 1 ({} : MapObjects)
  gs.addComponent .player 2 villager

/-- A player who is taken out of the game and comes back is a player again, and is gone when
they are removed. Added twice they are listed once. -/
theorem map_objects_player_gone :
    let changes : List (KindChange ℚ) := [.remove .player, .add .player villager]
    let ops : List (ObjectOp ℚ) :=
      .add 1 2 :: changes.map (.change 2) ++ [.add 1 2, .remove 1 2]
    townWithPlayer.objects 1 = some {} ∧
    2 ∉ getObjectsInMap (removeObjectFromMap 1 2
      (changes.foldl (KindChange.apply 2) (addObjectToMap 1 2 townWithPlayer))) 1 ∧
    Run (guarded (FiledOnce 1) ObjectStep) townWithPlayer ops (ops.foldl apply townWithPlayer) := by
  intro changes ops
  have hobjects : townWithPlayer.objects 1 = some {} := by decide +kernel
  have hsets : MapObjects.Sets {} := by
    intro k
    cases k <;> exact List.nodup_nil
  obtain ⟨hgone, honce, -⟩ := map_objects_iff hobjects hsets
  refine ⟨hobjects, (hgone 2 changes).mpr ?_, (honce ops _ (by decide +kernel)).mp ?_⟩
  · have hkind : kindOf townWithPlayer 2 = some .player := by decide +kernel
    have hchanged : kindOf (changes.foldl (KindChange.apply 2)
        (addObjectToMap 1 2 townWithPlayer)) 2 = some .player := by decide +kernel
    rintro k (hk | hmem)
    · exact hchanged.trans (hkind.symm.trans hk)
    · cases k <;> cases hmem
  · have halong : Along apply (fun gs op => (getObjectsInMap (apply gs op) 1).Nodup) townWithPlayer
        ops := by decide +kernel
    exact (Run.of_along halong).mono fun gs op gs' ⟨hnodup, heq⟩ => ⟨heq, heq ▸ hnodup⟩

/-- A player becomes a monster while they are on the map. They are still listed after they
are removed, and listed twice after they are added again. -/
theorem map_objects_left_behind :
    let changed := [KindChange.remove .player, .add .monster (Monster.make 1 1)].foldl
      (KindChange.apply 2) (addObjectToMap 1 2 townWithPlayer)
    getObjectsInMap (removeObjectFromMap 1 2 changed) 1 = [2] ∧
    getObjectsInMap (addObjectToMap 1 2 changed) 1 = [2, 2] ∧
    getTotalObjectCount (addObjectToMap 1 2 changed) 1 = 2 := by
  intro changed
  exact ⟨by decide +kernel, by decide +kernel, by decide +kernel⟩

end MapSystem

end EcsAsioServer.Threading
