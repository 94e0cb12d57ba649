import EcsAsioServer.Game.Locking

/-!
# Attacks

`handle_attack` computes the damage from the skill id of the client in 32 bits, takes it
from the target, and reports it twice: in the answer to the attacker and in a notice to
everyone else. Both carry the hit points that `get_hp` reads back; a target that has none
left is destroyed and loses its entry in `channel_to_entity_`.

All of this is exact as long as the damage does not wrap and the packets fit into the
queues of their channels (`attack_exact_iff`). From skill 858993458 on the damage starts
again near 0.
-/

namespace EcsAsioServer.GameServer

open AsioChannel (maxQueueBytes)
open Db Ecs FrameCodec Protocol StateProgram Transition

variable (env : Env)

/-! ## The channel objects after packets have been sent -/

/-- `send` on the object of a channel. -/
def delivered (net : ChannelMap AsioChannel) (p : Int32 × List UInt8) : ChannelMap AsioChannel :=
  match net.lookup p.1 with
  | some ch => net.insert p.1 (ch.send env.order p.2 (Int32.ofNat p.2.length)).1
  | none => net

variable {s t : GameServer}

/-- A `send` under the lock that returns has only changed the object. -/
theorem sendPacket_delivered (hmtx : s.mtx = true) {id : Int32} {pkt : List UInt8}
    (h : sendPacket env id pkt s = .ok () t) :
    t = { s with net := delivered env s.net (id, pkt) } := by
  unfold delivered
  dsimp only
  cases hch : s.net.lookup id with
  | none =>
    rw [sendPacket, callChannel_absent hch] at h
    cases h
    rfl
  | some ch =>
    rcases (sendPacket_ends env pkt ch).report with ⟨-, hnil⟩ | ⟨-, -, reason, hcalls⟩
    · rw [sendPacket, callChannel_silent hch hnil] at h
      cases h
      rfl
    · -- the channel closes, and `on_close` waits for the lock
      rw [sendPacket, callChannel_closing hch hcalls] at h
      have hstuck := onClose_locked
        (s := { s with net := s.net.insert id (ch.send env.order pkt (Int32.ofNat pkt.length)).1 })
        hmtx id
      rw [hstuck] at h
      cases h

theorem forM_delivered (p : Int32 → Prop) [DecidablePred p] (pkt : List UInt8)
    {ids : List Int32} (hmtx : s.mtx = true)
    (h : (ids.forM fun id => if p id then sendPacket env id pkt else pure ()) s = .ok () t) :
    t = { s with
      net := ((ids.filter fun id => p id).map fun id => (id, pkt)).foldl (delivered env)
        s.net } := by
  induction ids generalizing s with
  | nil =>
    cases h
    rfl
  | cons id ids ih =>
    obtain ⟨_, s', hfirst, hrest⟩ := bind_eq_ok.mp h
    change (if p id then sendPacket env id pkt else pure () : ServerM Unit) s = _ at hfirst
    by_cases hp : p id
    · rw [if_pos hp] at hfirst
      have hs' := sendPacket_delivered env hmtx hfirst
      rw [List.filter_cons_of_pos (p := fun id => decide (p id)) (decide_eq_true hp)]
      rw [ih (by rw [hs']; exact hmtx) hrest, hs']
      rfl
    · rw [if_neg hp] at hfirst
      cases hfirst
      rw [List.filter_cons_of_neg (p := fun id => decide (p id)) (by simpa using hp)]
      exact ih hmtx hrest

theorem withMtx_inv {α : Type} {body : ServerM α} {a : α} (hmtx : s.mtx = false)
    (h : withMtx body s = .ok a t) :
    ∃ s', body { s with mtx := true } = .ok a s' ∧ t = { s' with mtx := false } := by
  rw [withMtx_free hmtx] at h
  obtain ⟨b, s', hbody, hlast⟩ := bind_eq_ok.mp h
  cases hlast
  exact ⟨s', hbody, rfl⟩

theorem sendTestFrame_delivered (hmtx : s.mtx = false) {channelId : Int32}
    (hid : channelId ∈ s.channels) {msgId : UInt16} {data : List UInt8}
    (h : sendTestFrame env channelId msgId data s = .ok () t) :
    t = { s with net := delivered env s.net (channelId, pack msgId 0 1 0 data) } := by
  obtain ⟨s', hbody, rfl⟩ := withMtx_inv hmtx h
  change (if channelId ∈ s.channels then _ else _ : ServerM Unit) _ = _ at hbody
  rw [if_pos hid] at hbody
  rw [sendPacket_delivered (s := { s with mtx := true }) env rfl hbody, ← hmtx]

theorem broadcastExcept_delivered (hmtx : s.mtx = false) {excludeChannelId : Int32}
    {cmd : UInt16} {data : List UInt8}
    (h : broadcastExcept env excludeChannelId cmd data s = .ok () t) :
    t = { s with
      net := (s.toOthers excludeChannelId (pack cmd 0 1 0 data)).foldl (delivered env) s.net } := by
  obtain ⟨s', hbody, rfl⟩ := withMtx_inv hmtx h
  rw [forM_delivered (s := { s with mtx := true }) env (fun id => id ≠ excludeChannelId) _ rfl
    hbody, ← hmtx]
  rfl

/-! ## The server after an attack -/

/-- The packets of an attack between entities. -/
def attackPackets (s : GameServer) (channelId : Int32) (target : Entity) (req : AttackReq) :
    List (Int32 × List UInt8) :=
  [(channelId, pack 1004 0 1 0 (attackRes req (s.remainingHp target req)).serialize)]
    ++ s.toOthers channelId (pack 1004 0 1 0
      (damageNotify channelId req (s.remainingHp target req)).serialize)

section Attack

variable {channelId : Int32} (hmtx : s.mtx = false) (hopen : RegisteredOpen s)
  (hid : channelId ∈ s.channels)

include hmtx hopen hid

/-- The server after an attack that gets through. -/
theorem attackEntity_ok (targetChannel : Int32) (target : Entity) (req : AttackReq)
    (hfit : ¬ Overflow s (s.attackPackets channelId target req)) :
    let dead := s.remainingHp target req = 0
    ∃ ecs, attackEntity env channelId targetChannel target req s = .ok () { s with
        ecs := if dead then ecs.destroyEntity target else ecs
        net := (s.attackPackets channelId target req).foldl (delivered env) s.net
        channelToEntity :=
          if dead then s.channelToEntity.erase targetChannel else s.channelToEntity } ∧
      ecs.entityManager = s.ecs.entityManager ∧
      (ecs.component .health target : Option Health)
        = (s.ecs.component .health target : Option Health).map (damaged (attackDamage req)) := by
  intro dead
  obtain ⟨ecs₁, hdamage, hmanager, -, hhealth⟩ := takeDamage_ok s target (attackDamage req)
  obtain ⟨ecs₂, hhp, hsame⟩ := getHp_ok { s with ecs := ecs₁ } target
  have hremaining : (ecs₁.component .health target : Option Health).elim 0 Health.hp
      = s.remainingHp target req := by
    rw [hhealth]
    rfl
  refine ⟨ecs₂, ?_, hsame.entityManager.trans hmanager, (hsame.component ..).trans hhealth⟩
  -- it returns; what it returns is found statement by statement
  rcases attackEntity_sends env hmtx hopen hid targetChannel target req with
    ⟨hover, -⟩ | ⟨-, _, t, hok, -⟩
  · exact absurd hover hfit
  rw [hok]
  rw [attackEntity, bind_ok hdamage, bind_ok hhp] at hok
  dsimp only at hok
  rw [hremaining] at hok
  obtain ⟨_, s₃, hanswer, hok⟩ := bind_eq_ok.mp hok
  have hs₃ := sendTestFrame_delivered (s := { s with ecs := ecs₂ }) env hmtx hid hanswer
  obtain ⟨_, s₄, hnotice, hok⟩ := bind_eq_ok.mp hok
  have hs₄ := broadcastExcept_delivered env (by rw [hs₃]; exact hmtx) hnotice
  rw [hs₃] at hs₄
  by_cases hdead : dead
  · simp only [if_pos hdead]
    rw [if_pos hdead] at hok
    obtain ⟨_, s₅, hdestroy, hok⟩ := bind_eq_ok.mp hok
    cases hdestroy
    obtain ⟨s₆, hmodify, rfl⟩ := withMtx_inv (by rw [hs₄]; exact hmtx) hok
    cases hmodify
    rw [hs₄, ← hmtx]
    rfl
  · simp only [if_neg hdead]
    rw [if_neg hdead] at hok
    cases hok
    rw [hs₄]
    rfl

end Attack

theorem handleAttack_eq {channelId : Int32} {payload rest : List UInt8} {req : AttackReq}
    {attacker target : Entity}
    (hmtx : s.mtx = false) (hparse : AttackReq.parse payload = .ok req rest)
    (hattacker : s.channelToEntity.lookup channelId = some attacker)
    (htarget : s.channelToEntity.lookup req.targetId.toInt32 = some target) :
    handleAttack env channelId payload s
      = if attacker = 0 ∨ target = 0 then
          sendTestFrame env channelId 1004 attackFailed.serialize s
        else attackEntity env channelId req.targetId.toInt32 target req s := by
  unfold handleAttack
  rw [hparse]
  dsimp only
  rw [bind_ok (withMtx_read hmtx _), hattacker, htarget]
  exact ite_run ..

/-! ## The damage -/

theorem toNat_attackDamage (req : AttackReq) :
    (attackDamage req).toNat = (10 + 5 * req.skillId.toNat) % 2 ^ 32 := by
  rw [attackDamage, UInt32.toNat_add, UInt32.toNat_mul]
  show (10 + req.skillId.toNat * 5 % 2 ^ 32) % 2 ^ 32 = _
  omega

theorem attackDamage_eq_iff (req : AttackReq) :
    (attackDamage req).toNat = 10 + 5 * req.skillId.toNat ↔
      10 + 5 * req.skillId.toNat < 2 ^ 32 := by
  rw [toNat_attackDamage]
  omega

/-- A damage that has wrapped is not the highest one. -/
theorem wrapped_lt {skillId : ℕ} (hlt : skillId < 2 ^ 32) (hwrap : 2 ^ 32 ≤ 10 + 5 * skillId) :
    (10 + 5 * skillId) % 2 ^ 32 < 2 ^ 32 - 1 := by
  have hdiv := Nat.div_add_mod (10 + 5 * skillId) (2 ^ 32)
  have hmod := Nat.mod_lt (10 + 5 * skillId) (show 0 < 2 ^ 32 by decide)
  generalize (10 + 5 * skillId) % 2 ^ 32 = r at *
  generalize (10 + 5 * skillId) / 2 ^ 32 = q at *
  have hq : q ≤ 5 := by omega
  interval_cases q <;> omega

/-- No skill below does more damage: the highest skill that does not wrap does the most that
there is. -/
theorem attackDamage_mono_iff (req : AttackReq) :
    (∀ skillId ≤ req.skillId, attackDamage { req with skillId } ≤ attackDamage req) ↔
      10 + 5 * req.skillId.toNat < 2 ^ 32 := by
  have hlt := req.skillId.toNat_lt
  constructor
  · intro hmono
    by_contra hwrap
    obtain ⟨top, htop⟩ : ∃ top : UInt32, top.toNat = 858993457 := ⟨858993457, rfl⟩
    have hmost := hmono top (by rw [UInt32.le_iff_toNat_le, htop]; omega)
    rw [UInt32.le_iff_toNat_le, toNat_attackDamage, toNat_attackDamage] at hmost
    dsimp only at hmost
    rw [htop] at hmost
    exact absurd hmost (Nat.not_le.mpr (wrapped_lt hlt (Nat.not_lt.mp hwrap)))
  · intro hfit skillId hle
    rw [UInt32.le_iff_toNat_le] at hle
    rw [UInt32.le_iff_toNat_le, toNat_attackDamage, toNat_attackDamage, Nat.mod_eq_of_lt hfit]
    exact (Nat.mod_le ..).trans (by dsimp only; omega)

/-! ## Exact attacks -/

/-- The component that `get_component<Health>` finds. -/
def healthOf (s : GameServer) (entity : Entity) : Option Health := s.ecs.component .health entity

/-- What an attack should do to a target with this `Health`: `t` is the server afterwards,
`left` what is left of the target. -/
structure AttackExact (s t : GameServer) (channelId : Int32) (target : Entity) (req : AttackReq)
    (health left : Health) : Prop where
  sent : t.net = ([(channelId, pack 1004 0 1 0 (attackRes req left.hp).serialize)]
    ++ s.toOthers channelId (pack 1004 0 1 0 (damageNotify channelId req left.hp).serialize)).foldl
      (delivered env) s.net
  answer_damage : (attackRes req left.hp).damage.toNat = 10 + 5 * req.skillId.toNat
  notice_damage : (damageNotify channelId req left.hp).damage.toNat = 10 + 5 * req.skillId.toNat
  target_left : t.healthOf target = some left
  left_hp : left.hp.toNat = health.hp.toNat - (10 + 5 * req.skillId.toNat)
  killed : (attackRes req left.hp).message = ascii "killed" ↔ left.hp = 0
  destroyed : t.ecs.isValid target = false ↔ left.hp = 0
  unmapped : req.targetId.toInt32 ∉ t.channelToEntity ↔ left.hp = 0
  monotone : ∀ skillId ≤ req.skillId, attackDamage { req with skillId } ≤ attackDamage req

theorem attackRes_killed_iff (req : AttackReq) (hp : UInt32) :
    (attackRes req hp).message = ascii "killed" ↔ hp = 0 := by
  unfold attackRes
  by_cases hdead : hp = 0
  · simp [hdead]
  · simp only [hdead, iff_false]
    decide

section

variable {channelId : Int32} {req : AttackReq} {target : Entity} {health : Health}

/-- An attack that is refused hits nobody: the target keeps what it has, and is not
destroyed. -/
theorem not_exact_of_refused {t : GameServer} {left : Health}
    (hvalid : s.ecs.isValid target = true) (hhealth : s.healthOf target = some health)
    (hecs : t.ecs = s.ecs) : ¬ AttackExact env s t channelId target req health left := by
  intro hexact
  have hleft := hexact.target_left
  rw [healthOf, hecs] at hleft
  have hsame : left = health := Option.some.inj (hleft.symm.trans hhealth)
  have halive : left.hp ≠ 0 := by
    rw [ne_eq, ← hexact.destroyed, hecs]
    simp [hvalid]
  have hhp := hexact.left_hp
  rw [hsame] at hhp halive
  rw [ne_eq, ← UInt32.toNat_inj] at halive
  change health.hp.toNat ≠ 0 at halive
  omega

/-- An attack whose damage does not wrap, after its packets have gone out. -/
theorem attackExact_of_hit {ecs : GameService ComponentType.Val}
    (htarget : req.targetId.toInt32 ∈ s.channelToEntity) (hvalid : s.ecs.isValid target = true)
    (hmanager : ecs.entityManager = s.ecs.entityManager)
    (hleft : ecs.component .health target = some (damaged (attackDamage req) health))
    (hfit : 10 + 5 * req.skillId.toNat < 2 ^ 32) :
    let left := damaged (attackDamage req) health
    AttackExact env s { s with
      ecs := if left.hp = 0 then ecs.destroyEntity target else ecs
      channelToEntity :=
        if left.hp = 0 then s.channelToEntity.erase req.targetId.toInt32 else s.channelToEntity
      net := ([(channelId, pack 1004 0 1 0 (attackRes req left.hp).serialize)]
        ++ s.toOthers channelId
          (pack 1004 0 1 0 (damageNotify channelId req left.hp).serialize)).foldl
            (delivered env) s.net } channelId target req health left := by
  intro left
  have hdamage := (attackDamage_eq_iff req).mpr hfit
  refine ⟨rfl, hdamage, hdamage, ?_, ?_, attackRes_killed_iff req left.hp, ?_, ?_,
    (attackDamage_mono_iff req).mpr hfit⟩
  · show (if left.hp = 0 then ecs.destroyEntity target else ecs).component .health target = _
    split
    · exact (ecs.component_destroyEntity ..).trans hleft
    · exact hleft
  · rw [hp_damaged, hdamage]
  · show (if left.hp = 0 then ecs.destroyEntity target else ecs).isValid target = false ↔ _
    split
    · next hdead => simp [isValid_destroyEntity, hdead]
    · next halive =>
      have hstill : ecs.isValid target = true :=
        (congrArg (EntityManager.isValid · target) hmanager).trans hvalid
      simp [hstill, halive]
  · show req.targetId.toInt32 ∉ (if left.hp = 0 then _ else s.channelToEntity) ↔ _
    split
    · next hdead => simp [hdead]
    · next halive => simp [htarget, halive]

end

/-- **Attacks are exact** as long as the damage does not wrap, the packets fit, and no
entity has the id 0, which 2^32 entities later is given out. -/
theorem attack_exact_iff {channelId : Int32} {payload rest : List UInt8} {req : AttackReq}
    {attacker target : Entity} {health : Health}
    (hs : Reachable ServerInit (ServerStep env) s) (hmtx : s.mtx = false)
    (hid : channelId ∈ s.channels) (hparse : AttackReq.parse payload = .ok req rest)
    (hattacker : s.channelToEntity.lookup channelId = some attacker)
    (htarget : s.channelToEntity.lookup req.targetId.toInt32 = some target)
    (hvalid : s.ecs.isValid target = true)
    (hhealth : s.healthOf target = some health) :
    (∃ t left, handleAttack env channelId payload s = .ok () t ∧
      AttackExact env s t channelId target req health left) ↔
    attacker ≠ 0 ∧ target ≠ 0 ∧ 10 + 5 * req.skillId.toNat < 2 ^ 32 ∧
      ¬ Overflow s (s.attackPackets channelId target req) := by
  have hopen := reachable_registeredOpen env hs hmtx
  rw [handleAttack_eq env hmtx hparse hattacker htarget]
  by_cases hzero : attacker = 0 ∨ target = 0
  · rw [if_pos hzero]
    refine iff_of_false ?_ fun h => hzero.elim h.1 h.2.1
    rintro ⟨t, left, hok, hexact⟩
    have ht := sendTestFrame_delivered env hmtx hid hok
    exact not_exact_of_refused env hvalid hhealth (by rw [ht]) hexact
  rw [if_neg hzero]
  by_cases hover : Overflow s (s.attackPackets channelId target req)
  · refine iff_of_false ?_ fun h => h.2.2.2 hover
    rintro ⟨t, left, hok, -⟩
    obtain ⟨s', herror⟩ := ((attackEntity_sends env hmtx hopen hid req.targetId.toInt32 target
      req).stops hmtx).faults_iff.mpr hover
    rw [herror] at hok
    cases hok
  obtain ⟨ecs, hok, hmanager, hleft⟩ :=
    attackEntity_ok env hmtx hopen hid req.targetId.toInt32 target req hover
  have hhp : s.remainingHp target req = (damaged (attackDamage req) health).hp := by
    rw [remainingHp, show s.ecs.component .health target = _ from hhealth]
    rfl
  rw [show (s.ecs.component .health target : Option Health) = _ from hhealth] at hleft
  unfold attackPackets at hok
  rw [hhp] at hok
  rw [hok]
  constructor
  · rintro ⟨t, left', -, hexact⟩
    exact ⟨fun h => hzero (.inl h), fun h => hzero (.inr h),
      (attackDamage_eq_iff req).mp hexact.answer_damage, hover⟩
  · rintro ⟨-, -, hfit, -⟩
    have hmapped : req.targetId.toInt32 ∈ s.channelToEntity :=
      mem_of_lookup htarget
    exact ⟨_, _, rfl, attackExact_of_hit env hmapped hvalid hmanager hleft hfit⟩

/-- Channels 1 and 2 are logged in. -/
def duel : GameServer :=
  execute plainEnv (plainServer true {}) [
    .accept 1 0, .frame 1 1001 kimLogin, .strand 1 {}, .completion 0,
    .accept 2 0, .frame 2 1001 kimLogin, .strand 2 {}, .completion 0]

/-- Channel 1 attacks channel 2. -/
def duelReq (skillId : UInt32) : AttackReq where
  targetId := 2
  skillId
  x := .zero
  y := .zero
  z := .zero
  timestamp := 0

theorem attack_exact_hit :
    ∃ t left, handleAttack plainEnv 1 (duelReq 3).serialize duel = .ok () t ∧
      AttackExact plainEnv duel t 1 2 (duelReq 3) (Health.make 100 50) left := by
  have hattacker : duel.channelToEntity.lookup 1 = some 1 := by decide +kernel
  have htarget : duel.channelToEntity.lookup 2 = some 2 := by decide +kernel
  have hparse : AttackReq.parse (duelReq 3).serialize = .ok (duelReq 3) [] := rfl
  have hhealth : duel.healthOf 2 = some (Health.make 100 50) := by decide +kernel
  refine (attack_exact_iff plainEnv (plainServer_reachable (by decide +kernel))
    (by decide +kernel) (by decide +kernel) hparse hattacker htarget (by decide +kernel)
      hhealth).mpr ⟨by decide, by decide, by decide, by decide +kernel⟩

/-- Skill 858993458 does 4 points of damage, the skill before it 4294967295. -/
theorem huge_skill_scratches :
    Reachable ServerInit (ServerStep plainEnv) duel ∧
      10 + 5 * (duelReq 858993458).skillId.toNat = 4294967300 ∧
      (attackDamage (duelReq 858993458)).toNat = 4 ∧
      (attackDamage (duelReq 858993457)).toNat = 4294967295 ∧
      (after (handleAttack plainEnv 1 (duelReq 858993458).serialize) duel).healthOf 2
        = some { Health.make 100 50 with hp := 96 } := by
  refine ⟨plainServer_reachable (by decide +kernel), ?_, ?_, ?_, ?_⟩
  · decide +kernel
  · decide +kernel
  · decide +kernel
  · decide +kernel

end EcsAsioServer.GameServer
