import EcsAsioServer.Protocol.Layouts

/-!
# What the parsers accept, and where they read

Three results about the parsers of `common/protocol`, all read off the layouts.

- The parsers that check every field accept exactly the encodings of their
  messages and never read past the end of their input
  (`checked_parsers_exact`).
- Every response is parsed back from its own encoding: the sizes that are checked
  first are never larger than the smallest encoding (`responses_round_trip`).
- The parsers that check one size first and then read fields of fixed size behind
  a string leave their input exactly when such a field is the first that does not
  fit (`response_overruns_iff`).
-/

namespace EcsAsioServer.Protocol

open StateProgram Records

variable {M : Type}

/-! ## The checked parsers -/

/-- The parser accepts exactly the encodings of fitting messages, and never reads
outside its input. -/
structure Exact (parse : Reader M) (Fits : M → Prop) (serialize : M → List UInt8) : Prop where
  accepts : Accepts parse Fits serialize
  inBounds : InBounds .outOfBounds parse

/-- What makes the parser of a layout exact: its checks are enough and not too
much, and every byte it reads was written. -/
def checked (ss : List (Step wire)) : Bool :=
  lenient ss && exact ss && contiguous ss && guarded 0 ss

theorem exact_of_checked (c : Codec wire M) (h : checked c.steps = true) :
    Exact c.parse c.Fits c.serialize := by
  simp only [checked, Bool.and_eq_true] at h
  obtain ⟨⟨⟨hl, he⟩, hc⟩, hg⟩ := h
  exact ⟨c.accepts hl he hc, c.inBounds hg⟩

/-- The count that is written for a short list is its length. -/
theorem toNat_count {n : Nat} (h : n < 2 ^ 32) : (UInt32.ofNat n).toNat = n := by
  rw [UInt32.toNat_ofNat', Nat.mod_eq_of_lt h]

/-- An item is a checked word. -/
def itemCodec : Codec wire UInt32 where
  steps := [.check 4, u32]
  toValues v := (v, ())
  ofValues := fun (v, ()) => v
  parse := readItem
  serialize := writeLe32
  parse_eq := congrArg (need 4 >>= ·) (funext fun _ => (bind_pure readLe32).symm)

/-! ## Lists

A parser with a list reads its first fields, reserves and reads the elements. -/

section Lists

variable {σ α β : Type}

theorem reading_bind (x : Reader α) (f : α → Reader β) :
    reading (x >>= f) = reading x >>= fun a => reading (f a) := by
  funext s
  simp only [reading, bind_apply]
  cases x s.1 <;> rfl

/-- Read `x`, reserve as many elements as it says and go on with `f`. -/
def readReserving (x : Reader σ) (count : σ → UInt32) (f : σ → Reader α) : ListReader α := do
  let v ← x
  reserve (count v)
  f v

variable {x : Reader σ} {count : σ → UInt32} {f : σ → Reader α} {b : List UInt8} {rest : List UInt8}

theorem readReserving_ok {v : σ} (h : x b = .ok v rest) :
    readReserving x count f (b, []) = reading (f v) (rest, [⟨count v, rest⟩]) := by
  have hx : reading x (b, []) = .ok v (rest, []) := by
    rw [reading, h]
  exact bind_ok hx _

theorem readReserving_error {e : ReadError} (h : x b = .error e rest) :
    readReserving x count f (b, []) = .error e (rest, []) := by
  have hx : reading x (b, []) = .error e (rest, []) := by
    rw [reading, h]
  exact bind_error hx _

/-- The account plays no part in what is read. -/
theorem withoutAccount_readReserving : withoutAccount (readReserving x count f) = x >>= f := by
  funext b
  rw [withoutAccount]
  cases hx : x b with
  | ok v rest =>
    rw [bind_ok hx, readReserving_ok hx, reading]
    cases f v rest <;> rfl
  | error e rest => rw [bind_error hx, readReserving_error hx]

theorem reservations_ok {v : σ} (h : x b = .ok v rest) :
    reservations (readReserving x count f) b = [⟨count v, rest⟩] := by
  rw [reservations, after, readReserving_ok h, reading]
  cases f v rest <;> rfl

theorem reservations_error {e : ReadError} (h : x b = .error e rest) :
    reservations (readReserving x count f) b = [] := by
  rw [reservations, after, readReserving_error h]

end Lists

namespace CombatResultNotify

/-- The fields before the items, with the number of items. -/
def head : List (Step wire) := [.check 20, u32, u32, u32, u32, u32]

/-- What is read behind them. -/
def tail (winnerId loserId experienceGained goldGained itemCount : UInt32) :
    Reader CombatResultNotify := do
  let itemIds ← times itemCount.toNat readItem
  let timestamp ← readItem
  return { winnerId, loserId, experienceGained, goldGained, itemIds, timestamp }

theorem parseReserving_eq :
    parseReserving = readReserving (readAll head pure)
      (fun (_, _, _, _, itemCount, ()) => itemCount)
      fun (winnerId, loserId, experienceGained, goldGained, itemCount, ()) =>
        tail winnerId loserId experienceGained goldGained itemCount := by
  simp only [parseReserving, readReserving, readAll, head, tail, readItem, liftM, monadLift,
    MonadLift.monadLift, reading_bind, bind_assoc]
  rfl

theorem parse_eq :
    parse = readAll head fun (winnerId, loserId, experienceGained, goldGained, itemCount, ()) =>
      tail winnerId loserId experienceGained goldGained itemCount := by
  rw [parse, parseReserving_eq, withoutAccount_readReserving, ← readAll_eq_bind]

theorem tail_inBounds (winnerId loserId experienceGained goldGained itemCount : UInt32) :
    InBounds .outOfBounds (tail winnerId loserId experienceGained goldGained itemCount) := by
  have hitem : InBounds .outOfBounds readItem := itemCodec.inBounds rfl
  exact (hitem.times _).bind fun itemIds => hitem.bind fun timestamp => .pure _ _

/-- The items and the timestamp behind the first fields. -/
theorem tail_iff {winnerId loserId experienceGained goldGained itemCount : UInt32}
    {b : List UInt8} {m : CombatResultNotify} {rest : List UInt8} :
    tail winnerId loserId experienceGained goldGained itemCount b = .ok m rest ↔
      (winnerId = m.winnerId ∧ loserId = m.loserId ∧ experienceGained = m.experienceGained ∧
        goldGained = m.goldGained ∧ itemCount.toNat = m.itemIds.length) ∧
      b = m.itemIds.flatMap writeLe32 ++ (writeLe32 m.timestamp ++ rest) := by
  have hitem : Accepts readItem itemCodec.Fits writeLe32 := itemCodec.accepts rfl rfl rfl
  simp only [tail, bind_eq_ok]
  constructor
  · rintro ⟨itemIds, t, hitems, timestamp, t', htime, hpure⟩
    cases hpure
    obtain ⟨⟨hlen, -⟩, rfl⟩ := (hitem.times _ _ _ _).mp hitems
    obtain ⟨-, rfl⟩ := (hitem _ _ _).mp htime
    exact ⟨⟨rfl, rfl, rfl, rfl, hlen.symm⟩, rfl⟩
  · rintro ⟨⟨rfl, rfl, rfl, rfl, hlen⟩, rfl⟩
    have hfits : ∀ v ∈ m.itemIds, itemCodec.Fits v := fun _ _ => ⟨trivial, trivial⟩
    exact ⟨m.itemIds, writeLe32 m.timestamp ++ rest,
      (hitem.times _ _ _ _).mpr ⟨⟨hlen.symm, hfits⟩, rfl⟩, m.timestamp, rest,
      (hitem _ _ _).mpr ⟨⟨trivial, trivial⟩, rfl⟩, rfl⟩

theorem serialize_eq (m : CombatResultNotify) (rest : List UInt8) :
    m.serialize ++ rest
      = writeAll [] head (m.winnerId, m.loserId, m.experienceGained, m.goldGained,
          UInt32.ofNat m.itemIds.length, ())
        ++ (m.itemIds.flatMap writeLe32 ++ (writeLe32 m.timestamp ++ rest)) := by
  simp only [serialize, List.append_assoc]
  rfl

theorem parse_exact : Exact parse (fun m => m.itemIds.length < 2 ^ 32) serialize := by
  rw [parse_eq]
  constructor
  · intro b m rest
    rw [readAll_iff_write rfl rfl rfl]
    constructor
    · rintro ⟨⟨winnerId, loserId, experienceGained, goldGained, itemCount, ⟨⟩⟩, t, -, rfl, htail⟩
      obtain ⟨⟨rfl, rfl, rfl, rfl, hlen⟩, rfl⟩ := tail_iff.mp htail
      refine ⟨hlen.symm.trans_lt itemCount.toNat_lt, ?_⟩
      rw [serialize_eq, ← hlen, UInt32.ofNat_toNat]
    · rintro ⟨hlen, rfl⟩
      exact ⟨_, _, ⟨trivial, trivial, trivial, trivial, trivial, trivial⟩, serialize_eq m rest,
        tail_iff.mpr ⟨⟨rfl, rfl, rfl, rfl, toNat_count hlen⟩, rfl⟩⟩
  · intro b s
    exact readAll_inBounds rfl (fun _ b' => tail_inBounds _ _ _ _ _ b') (Nat.zero_le _) s

end CombatResultNotify

/-- **The checked parsers are exact.** -/
theorem checked_parsers_exact :
    Exact EchoReq.parse EchoReq.codec.Fits EchoReq.serialize ∧
    Exact EchoRes.parse EchoRes.codec.Fits EchoRes.serialize ∧
    Exact LoginReq.parse LoginReq.codec.Fits LoginReq.serialize ∧
    Exact PlayerMoveReq.parse PlayerMoveReq.codec.Fits PlayerMoveReq.serialize ∧
    Exact PlayerMoveRes.parse PlayerMoveRes.codec.Fits PlayerMoveRes.serialize ∧
    Exact PlayerInfoReq.parse PlayerInfoReq.codec.Fits PlayerInfoReq.serialize ∧
    Exact PlayerStatusUpdate.parse PlayerStatusUpdate.codec.Fits PlayerStatusUpdate.serialize ∧
    Exact ChatReq.parse ChatReq.codec.Fits ChatReq.serialize ∧
    Exact ChatBroadcast.parse ChatBroadcast.codec.Fits ChatBroadcast.serialize ∧
    Exact ChatFilterReq.parse ChatFilterReq.codec.Fits ChatFilterReq.serialize ∧
    Exact AttackReq.parse AttackReq.codec.Fits AttackReq.serialize ∧
    Exact DamageNotify.parse DamageNotify.codec.Fits DamageNotify.serialize ∧
    Exact SkillUseReq.parse SkillUseReq.codec.Fits SkillUseReq.serialize ∧
    Exact StatusEffectNotify.parse StatusEffectNotify.codec.Fits StatusEffectNotify.serialize ∧
    Exact CombatResultNotify.parse (fun m => m.itemIds.length < 2 ^ 32)
      CombatResultNotify.serialize ∧
    Exact GuildCreateReq.parse GuildCreateReq.codec.Fits GuildCreateReq.serialize ∧
    Exact GuildJoinReq.parse GuildJoinReq.codec.Fits GuildJoinReq.serialize ∧
    Exact GuildLeaveReq.parse GuildLeaveReq.codec.Fits GuildLeaveReq.serialize ∧
    Exact GuildInfoReq.parse GuildInfoReq.codec.Fits GuildInfoReq.serialize ∧
    Exact GuildMemberListReq.parse GuildMemberListReq.codec.Fits GuildMemberListReq.serialize ∧
    Exact MapEnterReq.parse MapEnterReq.codec.Fits MapEnterReq.serialize ∧
    Exact MapLeaveReq.parse MapLeaveReq.codec.Fits MapLeaveReq.serialize ∧
    Exact MapInfoReq.parse MapInfoReq.codec.Fits MapInfoReq.serialize :=
  ⟨exact_of_checked EchoReq.codec rfl, exact_of_checked EchoRes.codec rfl,
    exact_of_checked LoginReq.codec rfl, exact_of_checked PlayerMoveReq.codec rfl,
    exact_of_checked PlayerMoveRes.codec rfl, exact_of_checked PlayerInfoReq.codec rfl,
    exact_of_checked PlayerStatusUpdate.codec rfl, exact_of_checked ChatReq.codec rfl,
    exact_of_checked ChatBroadcast.codec rfl, exact_of_checked ChatFilterReq.codec rfl,
    exact_of_checked AttackReq.codec rfl, exact_of_checked DamageNotify.codec rfl,
    exact_of_checked SkillUseReq.codec rfl, exact_of_checked StatusEffectNotify.codec rfl,
    CombatResultNotify.parse_exact,
    exact_of_checked GuildCreateReq.codec rfl, exact_of_checked GuildJoinReq.codec rfl,
    exact_of_checked GuildLeaveReq.codec rfl, exact_of_checked GuildInfoReq.codec rfl,
    exact_of_checked GuildMemberListReq.codec rfl, exact_of_checked MapEnterReq.codec rfl,
    exact_of_checked MapLeaveReq.codec rfl, exact_of_checked MapInfoReq.codec rfl⟩

/-! ## The responses -/

/-- **Every response is read back** from its encoding, whatever follows it, and
nothing behind the encoding is read. -/
theorem responses_round_trip :
    RoundTrips LoginRes.parse LoginRes.codec.Fits LoginRes.serialize ∧
    RoundTrips ChatRes.parse ChatRes.codec.Fits ChatRes.serialize ∧
    RoundTrips ChatSystemMessage.parse ChatSystemMessage.codec.Fits
      ChatSystemMessage.serialize ∧
    RoundTrips ChatFilterRes.parse ChatFilterRes.codec.Fits ChatFilterRes.serialize ∧
    RoundTrips PlayerInfoRes.parse PlayerInfoRes.codec.Fits PlayerInfoRes.serialize ∧
    RoundTrips AttackRes.parse AttackRes.codec.Fits AttackRes.serialize ∧
    RoundTrips SkillUseRes.parse SkillUseRes.codec.Fits SkillUseRes.serialize ∧
    RoundTrips GuildCreateRes.parse GuildCreateRes.codec.Fits GuildCreateRes.serialize ∧
    RoundTrips GuildJoinRes.parse GuildJoinRes.codec.Fits GuildJoinRes.serialize ∧
    RoundTrips GuildLeaveRes.parse GuildLeaveRes.codec.Fits GuildLeaveRes.serialize ∧
    RoundTrips MapEnterRes.parse MapEnterRes.codec.Fits MapEnterRes.serialize ∧
    RoundTrips MapLeaveRes.parse MapLeaveRes.codec.Fits MapLeaveRes.serialize ∧
    RoundTrips MapObjectInfo.parse MapObjectInfo.codec.Fits MapObjectInfo.serialize ∧
    RoundTrips MapInfoRes.parse MapInfoRes.codec.Fits MapInfoRes.serialize :=
  ⟨LoginRes.codec.roundTrips rfl rfl, ChatRes.codec.roundTrips rfl rfl,
    ChatSystemMessage.codec.roundTrips rfl rfl, ChatFilterRes.codec.roundTrips rfl rfl,
    PlayerInfoRes.codec.roundTrips rfl rfl, AttackRes.codec.roundTrips rfl rfl,
    SkillUseRes.codec.roundTrips rfl rfl, GuildCreateRes.codec.roundTrips rfl rfl,
    GuildJoinRes.codec.roundTrips rfl rfl, GuildLeaveRes.codec.roundTrips rfl rfl,
    MapEnterRes.codec.roundTrips rfl rfl, MapLeaveRes.codec.roundTrips rfl rfl,
    MapObjectInfo.codec.roundTrips rfl rfl, MapInfoRes.codec.roundTrips rfl rfl⟩

/-! ## Reads outside the input -/

/-- The parser reads a byte outside `b`. -/
def Overruns (parse : Reader M) (b : List UInt8) : Prop :=
  ∃ s, parse b = .error .outOfBounds s

theorem overruns_bind {N : Type} {x : Reader N} {f : N → Reader M}
    (hf : ∀ a, InBounds .outOfBounds (f a)) (b : List UInt8) :
    Overruns (x >>= f) b ↔ Overruns x b := by
  simp only [Overruns, bind_eq_error]
  constructor
  · rintro ⟨s, h | ⟨a, t, -, h⟩⟩
    · exact ⟨s, h⟩
    · exact absurd h (hf a t s)
  · rintro ⟨s, h⟩
    exact ⟨s, .inl h⟩

/-- A repeated call by value overruns when its first round does. -/
theorem overruns_times_byValue {x : Reader M} {n : Nat} {b : List UInt8} :
    Overruns (times n (byValue x)) b ↔ n ≠ 0 ∧ Overruns x b := by
  simp only [Overruns, times_byValue_eq_error, exists_and_left]

/-! ## Overruns by lengths

Whether a step of a layout overruns at an offset of the input depends on the length of
the input and, for what follows a string, on the size of the string. -/

section Offsets

variable {ss : List (Step wire)} {b : List UInt8} {i : Nat} {n : Nat}

theorem overruns_check : Records.overruns (.check n :: ss) b = true ↔
    n ≤ b.length ∧ Records.overruns ss (b.drop 0) = true := by
  rw [Records.overruns, misfit, List.drop_zero]
  split
  · simp [Step.unchecked]
    omega
  · simp [Records.overruns]
    omega

/-- A field of a fixed size is read without a check. -/
theorem overruns_fixed {k : Kind} (hk : k.size = some n) (hn : 0 < n) :
    Records.overruns (.field k :: ss) (b.drop i) = true ↔
      b.length < i + n ∨ Records.overruns ss (b.drop (i + n)) = true := by
  have hext : wire.extent k (b.drop i) = if n ≤ (b.drop i).length then some n else none :=
    Kind.extent_size hk _
  rw [Records.overruns, misfit, hext, List.length_drop]
  by_cases hle : n ≤ b.length - i
  · have hlen : ¬b.length < i + n := by omega
    simp [hle, hlen, Records.overruns, List.drop_drop]
  · have hlen : b.length < i + n := by omega
    simp [hle, hlen, Step.unchecked, hk]

theorem overruns_u32 : Records.overruns (u32 :: ss) (b.drop i) = true ↔
    b.length < i + 4 ∨ Records.overruns ss (b.drop (i + 4)) = true :=
  overruns_fixed rfl (by decide)

theorem overruns_f32 : Records.overruns (f32 :: ss) (b.drop i) = true ↔
    b.length < i + 4 ∨ Records.overruns ss (b.drop (i + 4)) = true :=
  overruns_fixed rfl (by decide)

theorem overruns_u8 : Records.overruns (u8 :: ss) (b.drop i) = true ↔
    b.length < i + 1 ∨ Records.overruns ss (b.drop (i + 1)) = true :=
  overruns_fixed rfl (by decide)

theorem overruns_bool : Records.overruns (bool :: ss) (b.drop i) = true ↔
    b.length < i + 1 ∨ Records.overruns ss (b.drop (i + 1)) = true :=
  overruns_fixed rfl (by decide)

theorem overruns_skip : Records.overruns (.skip n :: ss) (b.drop i) = true ↔
    Records.overruns ss (b.drop (i + n)) = true := by
  rw [Records.overruns, misfit, List.drop_drop, Records.overruns]

/-- The number at offset `i`, such as the size of a string. -/
def sizeAt (b : List UInt8) (i : Nat) : Nat := (wordAt b i).toNat

theorem textExtent_drop (h : i + 4 ≤ b.length) : Kind.textExtent (b.drop i)
    = if sizeAt b i ≤ b.length - (i + 4) then some (4 + sizeAt b i) else none := by
  rw [drop_eq_word h, ← List.length_drop]
  rfl

/-- A string checks for its bytes. -/
theorem overruns_text : Records.overruns (lpString :: ss) (b.drop i) = true ↔
    i + 4 + sizeAt b i ≤ b.length ∧
      Records.overruns ss (b.drop (i + 4 + sizeAt b i)) = true := by
  have hext : wire.extent Kind.text (b.drop i) = Kind.textExtent (b.drop i) := rfl
  rw [Records.overruns, misfit, hext]
  by_cases h4 : i + 4 ≤ b.length
  · rw [textExtent_drop h4]
    by_cases hle : sizeAt b i ≤ b.length - (i + 4)
    · have hlen : i + 4 + sizeAt b i ≤ b.length := by omega
      have hoffset : i + 4 + sizeAt b i = i + (4 + sizeAt b i) := Nat.add_assoc ..
      rw [if_pos hle, and_iff_right hlen, hoffset, ← List.drop_drop]
      rfl
    · have hlen : ¬i + 4 + sizeAt b i ≤ b.length := by omega
      simp [hle, hlen, Step.unchecked, Kind.size]
  · have hshort : (b.drop i).length < 4 := by
      rw [List.length_drop]
      omega
    have hlen : ¬i + 4 + sizeAt b i ≤ b.length := by omega
    simp [Kind.textExtent_short hshort, hlen, Step.unchecked, Kind.size]

/-- A word that is there is read. -/
theorem readAll_u32 {M : Type} {f : Values (u32 :: ss) → Reader M} (h : i + 4 ≤ b.length) :
    readAll (u32 :: ss) f (b.drop i)
      = readAll ss (fun v => f (wordAt b i, v)) (b.drop (i + 4)) := by
  rw [readAll]
  exact bind_ok (readLe32_drop h) _

theorem overruns_nil : Records.overruns ([] : List (Step wire)) b = true ↔ False := by
  simp [Records.overruns, misfit]

end Offsets

namespace GuildMemberListRes

/-- The fields before the members, with the number of members. -/
def head : List (Step wire) := [.check 16, u32, u32, u32, u32, u32]

/-- The members of the list. -/
def tail (guildId totalMembers page pageSize memberCount : UInt32) :
    Reader GuildMemberListRes := do
  let members ← times memberCount.toNat (byValue GuildMemberInfo.parse)
  return { guildId, totalMembers, page, pageSize, members }

theorem parseReserving_eq :
    parseReserving = readReserving (readAll head pure) (fun (_, _, _, _, memberCount, ()) =>
      memberCount) fun (guildId, totalMembers, page, pageSize, memberCount, ()) =>
        tail guildId totalMembers page pageSize memberCount := by
  simp only [parseReserving, readReserving, readAll, head, tail, liftM, monadLift,
    MonadLift.monadLift, reading_bind, bind_assoc]
  rfl

theorem parse_eq :
    parse = readAll head fun (guildId, totalMembers, page, pageSize, memberCount, ()) =>
      tail guildId totalMembers page pageSize memberCount := by
  rw [parse, parseReserving_eq, withoutAccount_readReserving, ← readAll_eq_bind]

/-- The number of members is read unchecked. -/
theorem head_overruns_iff (b : List UInt8) :
    Records.overruns head b = true ↔ 16 ≤ b.length ∧ b.length < 20 := by
  rw [head]
  simp only [overruns_check, overruns_u32, overruns_nil, or_false]
  omega

theorem tail_overruns_iff (guildId totalMembers page pageSize memberCount : UInt32)
    (b : List UInt8) :
    Overruns (tail guildId totalMembers page pageSize memberCount) b ↔
      memberCount.toNat ≠ 0 ∧ Overruns GuildMemberInfo.parse b := by
  rw [tail, overruns_bind fun members => .pure _ _, overruns_times_byValue]

variable {b : List UInt8}

theorem head_read (h : 20 ≤ b.length) : readAll head pure b
    = .ok (wordAt b 0, wordAt b 4, wordAt b 8, wordAt b 12, wordAt b 16, ()) (b.drop 20) := by
  show readAll [.check 16, u32, u32, u32, u32, u32] pure (b.drop 0) = _
  rw [readAll_check (by simp; omega)]
  iterate 5 rw [readAll_u32 (by omega)]
  rfl

theorem head_cut (h16 : 16 ≤ b.length) (h20 : b.length < 20) :
    ∃ s, readAll head pure b = .error .outOfBounds s :=
  (readAll_overruns_iff id).mpr ((head_overruns_iff b).mpr ⟨h16, h20⟩)

/-- Behind twenty bytes the members are read. -/
theorem parse_of_le (h : 20 ≤ b.length) : parse b
    = tail (wordAt b 0) (wordAt b 4) (wordAt b 8) (wordAt b 12) (wordAt b 16) (b.drop 20) := by
  rw [parse_eq, readAll_eq_bind, bind_ok (head_read h)]

/-- The members' list overruns in the number of members, or in its first member. -/
theorem overruns_iff (b : List UInt8) :
    Overruns parse b ↔ (16 ≤ b.length ∧ b.length < 20) ∨
      20 ≤ b.length ∧ sizeAt b 16 ≠ 0 ∧ Overruns GuildMemberInfo.parse (b.drop 20) := by
  by_cases h20 : 20 ≤ b.length
  · have hcut : ¬(16 ≤ b.length ∧ b.length < 20) := by omega
    rw [or_iff_right hcut, and_iff_right h20, Overruns, parse_of_le h20]
    exact tail_overruns_iff _ _ _ _ (wordAt b 16) (b.drop 20)
  · rw [or_iff_left (fun h => h20 h.1), Overruns, parse_eq, readAll_eq_bind]
    constructor
    · rintro ⟨s, hs⟩
      by_cases h16 : 16 ≤ b.length
      · exact ⟨h16, Nat.not_le.mp h20⟩
      · have hshort : readAll head pure b = .error .rejected b :=
          readAll_check_rejects (Nat.not_le.mp h16)
        rw [bind_error hshort] at hs
        cases hs
    · rintro ⟨h16, hlt⟩
      obtain ⟨s, hs⟩ := head_cut h16 hlt
      exact ⟨s, bind_error hs _⟩

end GuildMemberListRes

namespace MapObjectsUpdate

/-- The fields before the objects, with the number of objects. -/
def head : List (Step wire) := [.check 12, u32, u32, u32]

/-- The objects, and what follows them. -/
def tail (mapId updateType objectCount : UInt32) : Reader MapObjectsUpdate := do
  let objects ← times objectCount.toNat (byValue MapObjectInfo.parse)
  need 4
  let timestamp ← readLe32
  return { mapId, updateType, objects, timestamp }

theorem parseReserving_eq :
    parseReserving = readReserving (readAll head pure) (fun (_, _, objectCount, ()) => objectCount)
      fun (mapId, updateType, objectCount, ()) => tail mapId updateType objectCount := by
  simp only [parseReserving, readReserving, readAll, head, tail, liftM, monadLift,
    MonadLift.monadLift, reading_bind, bind_assoc]
  rfl

theorem parse_eq :
    parse = readAll head fun (mapId, updateType, objectCount, ()) =>
      tail mapId updateType objectCount := by
  rw [parse, parseReserving_eq, withoutAccount_readReserving, ← readAll_eq_bind]

/-- The timestamp is read like an item. -/
theorem tail_eq (mapId updateType objectCount : UInt32) :
    tail mapId updateType objectCount = do
      let objects ← times objectCount.toNat (byValue MapObjectInfo.parse)
      let timestamp ← readItem
      return { mapId, updateType, objects, timestamp } := by
  simp only [tail, readItem, bind_assoc]

theorem tail_overruns_iff (mapId updateType objectCount : UInt32) (b : List UInt8) :
    Overruns (tail mapId updateType objectCount) b ↔
      objectCount.toNat ≠ 0 ∧ Overruns MapObjectInfo.parse b := by
  have hitem : InBounds ReadError.outOfBounds readItem := itemCodec.inBounds rfl
  rw [tail_eq, overruns_bind fun objects => hitem.bind fun timestamp => .pure _ _,
    overruns_times_byValue]

theorem head_read {b : List UInt8} (h : 12 ≤ b.length) : readAll head pure b
    = .ok (wordAt b 0, wordAt b 4, wordAt b 8, ()) (b.drop 12) := by
  show readAll [.check 12, u32, u32, u32] pure (b.drop 0) = _
  rw [readAll_check (by simpa using h)]
  iterate 3 rw [readAll_u32 (by omega)]
  rfl

theorem parse_of_le {b : List UInt8} (h : 12 ≤ b.length) :
    parse b = tail (wordAt b 0) (wordAt b 4) (wordAt b 8) (b.drop 12) := by
  rw [parse_eq, readAll_eq_bind, bind_ok (head_read h)]

/-- The list of objects overruns in its first object. -/
theorem overruns_iff (b : List UInt8) : Overruns parse b ↔
    12 ≤ b.length ∧ sizeAt b 8 ≠ 0 ∧ Overruns MapObjectInfo.parse (b.drop 12) := by
  by_cases h12 : 12 ≤ b.length
  · rw [and_iff_right h12, Overruns, parse_of_le h12]
    exact tail_overruns_iff _ _ (wordAt b 8) (b.drop 12)
  · have hshort : readAll head pure b = .error .rejected b :=
      readAll_check_rejects (Nat.not_le.mp h12)
    rw [Overruns, parse_eq, readAll_eq_bind, bind_error hshort]
    simp [h12]

end MapObjectsUpdate

/-! ### The responses

The bytes up to the end of the last string that is read are there, and the fields of
fixed size behind it are not. -/

theorem PlayerInfoRes.overruns_iff (b : List UInt8) : Overruns PlayerInfoRes.parse b ↔
    28 ≤ b.length ∧ 8 + sizeAt b 4 ≤ b.length ∧ b.length < 36 + sizeAt b 4 := by
  refine (PlayerInfoRes.codec.overruns_iff b).trans ?_
  simp only [Codec.overruns, PlayerInfoRes.codec, overruns_check, overruns_u32, overruns_f32,
    overruns_text, overruns_nil, or_false, Nat.zero_add, Nat.reduceAdd]
  omega

theorem ChatSystemMessage.overruns_iff (b : List UInt8) : Overruns ChatSystemMessage.parse b ↔
    12 ≤ b.length ∧ 12 + sizeAt b 4 + sizeAt b (8 + sizeAt b 4) ≤ b.length ∧
      b.length < 20 + sizeAt b 4 + sizeAt b (8 + sizeAt b 4) := by
  refine (ChatSystemMessage.codec.overruns_iff b).trans ?_
  simp only [Codec.overruns, ChatSystemMessage.codec, overruns_check, overruns_u32, overruns_text,
    overruns_nil, or_false, Nat.zero_add, Nat.reduceAdd]
  omega

theorem AttackRes.overruns_iff (b : List UInt8) : Overruns AttackRes.parse b ↔
    12 ≤ b.length ∧ 5 + sizeAt b 1 ≤ b.length ∧ b.length < 17 + sizeAt b 1 := by
  refine (AttackRes.codec.overruns_iff b).trans ?_
  simp only [Codec.overruns, AttackRes.codec, overruns_check, overruns_bool, overruns_u32,
    overruns_text, overruns_nil, or_false, Nat.zero_add, Nat.reduceAdd]
  omega

theorem SkillUseRes.overruns_iff (b : List UInt8) : Overruns SkillUseRes.parse b ↔
    12 ≤ b.length ∧ 5 + sizeAt b 1 ≤ b.length ∧ b.length < 17 + sizeAt b 1 := by
  refine (SkillUseRes.codec.overruns_iff b).trans ?_
  simp only [Codec.overruns, SkillUseRes.codec, overruns_check, overruns_bool, overruns_u32,
    overruns_text, overruns_nil, or_false, Nat.zero_add, Nat.reduceAdd]
  omega

theorem GuildInfoRes.overruns_iff (b : List UInt8) : Overruns GuildInfoRes.parse b ↔
    24 ≤ b.length ∧ 12 + sizeAt b 4 + sizeAt b (8 + sizeAt b 4) ≤ b.length ∧
      b.length < 34 + sizeAt b 4 + sizeAt b (8 + sizeAt b 4) := by
  refine (GuildInfoRes.codec.overruns_iff b).trans ?_
  simp only [Codec.overruns, GuildInfoRes.codec, overruns_check, overruns_u32, overruns_u8,
    overruns_skip, overruns_text, overruns_nil, and_false, or_false, Nat.zero_add, Nat.reduceAdd]
  omega

theorem GuildMemberInfo.overruns_iff (b : List UInt8) : Overruns GuildMemberInfo.parse b ↔
    16 ≤ b.length ∧ 8 + sizeAt b 4 ≤ b.length ∧ b.length < 22 + sizeAt b 4 := by
  refine (GuildMemberInfo.codec.overruns_iff b).trans ?_
  simp only [Codec.overruns, GuildMemberInfo.codec, overruns_check, overruns_u32, overruns_u8,
    overruns_skip, overruns_text, overruns_nil, or_false, Nat.zero_add, Nat.reduceAdd]
  omega

/-- Between its two strings the response has a word that is not checked either. -/
theorem MapEnterRes.overruns_iff (b : List UInt8) : Overruns MapEnterRes.parse b ↔
    20 ≤ b.length ∧ 5 + sizeAt b 1 ≤ b.length ∧ (b.length < 9 + sizeAt b 1 ∨
      13 + sizeAt b 1 + sizeAt b (9 + sizeAt b 1) ≤ b.length ∧
        b.length < 29 + sizeAt b 1 + sizeAt b (9 + sizeAt b 1)) := by
  refine (MapEnterRes.codec.overruns_iff b).trans ?_
  have hoffset : 5 + sizeAt b 1 + 4 = 9 + sizeAt b 1 := by omega
  simp only [Codec.overruns, MapEnterRes.codec, overruns_check, overruns_bool, overruns_u32,
    overruns_f32, overruns_text, overruns_nil, or_false, Nat.zero_add, Nat.reduceAdd, hoffset]
  omega

theorem MapLeaveRes.overruns_iff (b : List UInt8) : Overruns MapLeaveRes.parse b ↔
    8 ≤ b.length ∧ 5 + sizeAt b 1 ≤ b.length ∧ b.length < 9 + sizeAt b 1 := by
  refine (MapLeaveRes.codec.overruns_iff b).trans ?_
  simp only [Codec.overruns, MapLeaveRes.codec, overruns_check, overruns_bool, overruns_u32,
    overruns_text, overruns_nil, or_false, Nat.zero_add, Nat.reduceAdd]
  omega

theorem MapObjectInfo.overruns_iff (b : List UInt8) : Overruns MapObjectInfo.parse b ↔
    28 ≤ b.length ∧ 9 + sizeAt b 5 ≤ b.length ∧ b.length < 37 + sizeAt b 5 := by
  refine (MapObjectInfo.codec.overruns_iff b).trans ?_
  simp only [Codec.overruns, MapObjectInfo.codec, overruns_check, overruns_u32, overruns_u8,
    overruns_f32, overruns_text, overruns_nil, or_false, Nat.zero_add, Nat.reduceAdd]
  omega

theorem MapInfoRes.overruns_iff (b : List UInt8) : Overruns MapInfoRes.parse b ↔
    24 ≤ b.length ∧ 12 + sizeAt b 4 + sizeAt b (8 + sizeAt b 4) ≤ b.length ∧
      b.length < 33 + sizeAt b 4 + sizeAt b (8 + sizeAt b 4) := by
  refine (MapInfoRes.codec.overruns_iff b).trans ?_
  simp only [Codec.overruns, MapInfoRes.codec, overruns_check, overruns_u32, overruns_u8,
    overruns_text, overruns_nil, or_false, Nat.zero_add, Nat.reduceAdd]
  omega

/-- **Where the response parsers leave their input.** Each condition is one on the length of
the input and the sizes in it: the size that is checked first is there, the strings fit, and
what is read behind them does not. -/
theorem response_overruns_iff (b : List UInt8) :
    (Overruns PlayerInfoRes.parse b ↔ 28 ≤ b.length ∧ 8 + sizeAt b 4 ≤ b.length ∧
      b.length < 36 + sizeAt b 4) ∧
    (Overruns ChatSystemMessage.parse b ↔ 12 ≤ b.length ∧
      12 + sizeAt b 4 + sizeAt b (8 + sizeAt b 4) ≤ b.length ∧
      b.length < 20 + sizeAt b 4 + sizeAt b (8 + sizeAt b 4)) ∧
    (Overruns AttackRes.parse b ↔ 12 ≤ b.length ∧ 5 + sizeAt b 1 ≤ b.length ∧
      b.length < 17 + sizeAt b 1) ∧
    (Overruns SkillUseRes.parse b ↔ 12 ≤ b.length ∧ 5 + sizeAt b 1 ≤ b.length ∧
      b.length < 17 + sizeAt b 1) ∧
    (Overruns GuildInfoRes.parse b ↔ 24 ≤ b.length ∧
      12 + sizeAt b 4 + sizeAt b (8 + sizeAt b 4) ≤ b.length ∧
      b.length < 34 + sizeAt b 4 + sizeAt b (8 + sizeAt b 4)) ∧
    (Overruns GuildMemberInfo.parse b ↔ 16 ≤ b.length ∧ 8 + sizeAt b 4 ≤ b.length ∧
      b.length < 22 + sizeAt b 4) ∧
    (Overruns GuildMemberListRes.parse b ↔ (16 ≤ b.length ∧ b.length < 20) ∨
      20 ≤ b.length ∧ sizeAt b 16 ≠ 0 ∧ Overruns GuildMemberInfo.parse (b.drop 20)) ∧
    (Overruns MapEnterRes.parse b ↔ 20 ≤ b.length ∧ 5 + sizeAt b 1 ≤ b.length ∧
      (b.length < 9 + sizeAt b 1 ∨
        13 + sizeAt b 1 + sizeAt b (9 + sizeAt b 1) ≤ b.length ∧
          b.length < 29 + sizeAt b 1 + sizeAt b (9 + sizeAt b 1))) ∧
    (Overruns MapLeaveRes.parse b ↔ 8 ≤ b.length ∧ 5 + sizeAt b 1 ≤ b.length ∧
      b.length < 9 + sizeAt b 1) ∧
    (Overruns MapObjectInfo.parse b ↔ 28 ≤ b.length ∧ 9 + sizeAt b 5 ≤ b.length ∧
      b.length < 37 + sizeAt b 5) ∧
    (Overruns MapObjectsUpdate.parse b ↔ 12 ≤ b.length ∧ sizeAt b 8 ≠ 0 ∧
      Overruns MapObjectInfo.parse (b.drop 12)) ∧
    (Overruns MapInfoRes.parse b ↔ 24 ≤ b.length ∧
      12 + sizeAt b 4 + sizeAt b (8 + sizeAt b 4) ≤ b.length ∧
      b.length < 33 + sizeAt b 4 + sizeAt b (8 + sizeAt b 4)) :=
  ⟨PlayerInfoRes.overruns_iff b, ChatSystemMessage.overruns_iff b, AttackRes.overruns_iff b,
    SkillUseRes.overruns_iff b, GuildInfoRes.overruns_iff b, GuildMemberInfo.overruns_iff b,
    GuildMemberListRes.overruns_iff b, MapEnterRes.overruns_iff b, MapLeaveRes.overruns_iff b,
    MapObjectInfo.overruns_iff b, MapObjectsUpdate.overruns_iff b, MapInfoRes.overruns_iff b⟩

/-- Each of these parsers leaves some input that its first check lets through: a
string takes up all that is left of it. -/
theorem every_response_overruns :
    Overruns PlayerInfoRes.parse ([1, 0, 0, 0, 20, 0, 0, 0] ++ List.replicate 20 65) ∧
    Overruns ChatSystemMessage.parse (List.replicate 12 0) ∧
    Overruns AttackRes.parse ([1, 7, 0, 0, 0] ++ List.replicate 7 65) ∧
    Overruns SkillUseRes.parse ([1, 7, 0, 0, 0] ++ List.replicate 7 65) ∧
    Overruns GuildInfoRes.parse ([1, 0, 0, 0, 12, 0, 0, 0] ++ List.replicate 12 65
      ++ [0, 0, 0, 0]) ∧
    Overruns GuildMemberInfo.parse ([1, 0, 0, 0, 8, 0, 0, 0] ++ List.replicate 8 65) ∧
    Overruns GuildMemberListRes.parse (List.replicate 16 0) ∧
    Overruns MapEnterRes.parse ([1, 15, 0, 0, 0] ++ List.replicate 15 65) ∧
    Overruns MapLeaveRes.parse ([1, 3, 0, 0, 0] ++ List.replicate 3 65) ∧
    Overruns MapObjectInfo.parse ([1, 0, 0, 0, 0, 19, 0, 0, 0] ++ List.replicate 19 65) ∧
    Overruns MapObjectsUpdate.parse ([1, 0, 0, 0, 0, 0, 0, 0, 1, 0, 0, 0]
      ++ [1, 0, 0, 0, 0, 19, 0, 0, 0] ++ List.replicate 19 65) ∧
    Overruns MapInfoRes.parse ([1, 0, 0, 0, 12, 0, 0, 0] ++ List.replicate 12 65
      ++ [0, 0, 0, 0]) := by
  refine ⟨?_, ?_, ?_, ?_, ?_, ?_, ?_, ?_, ?_, ?_, ?_, ?_⟩ <;> exact ⟨_, rfl⟩

end EcsAsioServer.Protocol
