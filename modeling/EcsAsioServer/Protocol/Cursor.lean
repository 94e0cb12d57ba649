import EcsAsioServer.Protocol.Parsing

/-!
# Cursor errors

Two errors in how a parser moves its pointer, and what remains true.

- `guild_info_res` and `guild_member_info` move over one byte that is not part of
  the encoding. Their parsers accept exactly the encodings with one more byte at
  that place (`padded`), so no value is ever read back
  (`skipped_byte_never_round_trips`).
- The loops of `guild_member_list_res` and `map_objects_update` pass the pointer by
  value, so that every element is read from where the first one starts.
  `list_round_trips_iff` says which lists survive.
-/

namespace EcsAsioServer.Protocol

open LittleEndian StateProgram Records

/-! ## The skipped byte -/

namespace GuildInfoRes

/-- The encoding with one more byte behind `guild_type`. -/
def padded (m : GuildInfoRes) (gap : UInt8) : List UInt8 :=
  writeLe32 m.guildId ++ writeLpString m.guildName ++ writeLpString m.guildDescription
    ++ writeLe32 m.memberCount ++ writeLe32 m.maxMembers ++ [m.guildType] ++ [gap]
    ++ writeLe32 m.guildLevel ++ writeLe32 m.guildExp ++ writeLe32 m.leaderId
    ++ writeLpString m.leaderName

theorem length_padded (m : GuildInfoRes) (gap : UInt8) :
    (m.padded gap).length = m.serialize.length + 1 := by
  simp only [padded, serialize, List.length_append, List.length_singleton]
  omega

theorem parse_iff (b : List UInt8) (m : GuildInfoRes) (rest : List UInt8) :
    parse b = .ok m rest ↔ codec.Fits m ∧ ∃ gap, b = m.padded gap ++ rest := by
  refine (codec.parse_iff rfl rfl b m rest).trans ?_
  constructor
  · rintro ⟨w, ⟨-, w₁, rfl, hname, w₂, rfl, hdesc, w₃, rfl, -, w₄, rfl, -, w₅, rfl, -, w₆, rfl,
      gap, w₇, hgap, rfl, hback⟩, rfl⟩
    obtain ⟨hfits, rfl⟩ := (Records.spells_iff rfl _ _).mp hback
    obtain ⟨g, rfl⟩ := List.length_eq_one_iff.mp hgap
    refine ⟨⟨trivial, hname, hdesc, trivial, trivial, trivial, hfits⟩, g, ?_⟩
    simp only [padded, List.append_assoc]
    rfl
  · rintro ⟨⟨-, hname, hdesc, -, -, -, hfits⟩, gap, rfl⟩
    have hback : Records.Spells [u32, u32, u32, lpString]
        (m.guildLevel, m.guildExp, m.leaderId, m.leaderName, ()) _ :=
      (Records.spells_iff rfl _ _).mpr ⟨hfits, rfl⟩
    refine ⟨_, ⟨trivial, _, rfl, hname, _, rfl, hdesc, _, rfl, trivial, _, rfl, trivial, _, rfl,
      trivial, _, rfl, [gap], _, rfl, rfl, hback⟩, ?_⟩
    simp only [padded, List.append_assoc]
    rfl

end GuildInfoRes

namespace GuildMemberInfo

/-- The encoding with one more byte behind `rank`. -/
def padded (m : GuildMemberInfo) (gap : UInt8) : List UInt8 :=
  writeLe32 m.playerId ++ writeLpString m.playerName ++ writeLe32 m.level ++ [m.rank] ++ [gap]
    ++ writeLe32 m.joinDate ++ writeLe32 m.lastOnline

theorem length_padded (m : GuildMemberInfo) (gap : UInt8) :
    (m.padded gap).length = m.serialize.length + 1 := by
  simp only [padded, serialize, List.length_append, List.length_singleton]
  omega

theorem parse_iff (b : List UInt8) (m : GuildMemberInfo) (rest : List UInt8) :
    parse b = .ok m rest ↔ codec.Fits m ∧ ∃ gap, b = m.padded gap ++ rest := by
  refine (codec.parse_iff rfl rfl b m rest).trans ?_
  constructor
  · rintro ⟨w, ⟨-, w₁, rfl, hname, w₂, rfl, -, w₃, rfl, -, w₄, rfl, gap, w₅, hgap, rfl, hback⟩,
      rfl⟩
    obtain ⟨hfits, rfl⟩ := (Records.spells_iff rfl _ _).mp hback
    obtain ⟨g, rfl⟩ := List.length_eq_one_iff.mp hgap
    refine ⟨⟨trivial, hname, trivial, trivial, hfits⟩, g, ?_⟩
    simp only [padded, List.append_assoc]
    rfl
  · rintro ⟨⟨-, hname, -, -, hfits⟩, gap, rfl⟩
    have hback : Records.Spells [u32, u32] (m.joinDate, m.lastOnline, ()) _ :=
      (Records.spells_iff rfl _ _).mpr ⟨hfits, rfl⟩
    refine ⟨_, ⟨trivial, _, rfl, hname, _, rfl, trivial, _, rfl, trivial, _, rfl, [gap], _, rfl,
      rfl, hback⟩, ?_⟩
    simp only [padded, List.append_assoc]
    rfl

end GuildMemberInfo

/-- A parser whose words are longer than the encodings never reads a value back
from its encoding, and never stops right behind it. -/
theorem never_round_trips {M : Type} {parse : Reader M} {serialize : M → List UInt8}
    (h : ∀ {b m rest}, parse b = .ok m rest → (serialize m).length + rest.length < b.length)
    (m : M) :
    (∀ rest, parse (serialize m) ≠ .ok m rest) ∧
    (∀ rest, parse (serialize m ++ rest) ≠ .ok m rest) := by
  constructor
  · intro rest hparse
    have hlt := h hparse
    omega
  · intro rest hparse
    have hlt := h hparse
    rw [List.length_append] at hlt
    omega

/-- **The skipped byte.** The two parsers accept the encodings with one arbitrary
byte inserted. So `parse(serialize(m))` is never `m`, and on `m` followed by other
data the parser never returns `m` and stops where that data starts. -/
theorem skipped_byte_never_round_trips (m : GuildInfoRes) (x : GuildMemberInfo) :
    (∀ b rest, GuildInfoRes.parse b = .ok m rest ↔
      GuildInfoRes.codec.Fits m ∧ ∃ gap, b = m.padded gap ++ rest) ∧
    ((∀ rest, GuildInfoRes.parse m.serialize ≠ .ok m rest) ∧
      (∀ rest, GuildInfoRes.parse (m.serialize ++ rest) ≠ .ok m rest)) ∧
    (∀ b rest, GuildMemberInfo.parse b = .ok x rest ↔
      GuildMemberInfo.codec.Fits x ∧ ∃ gap, b = x.padded gap ++ rest) ∧
    ((∀ rest, GuildMemberInfo.parse x.serialize ≠ .ok x rest) ∧
      (∀ rest, GuildMemberInfo.parse (x.serialize ++ rest) ≠ .ok x rest)) := by
  refine ⟨fun b rest => GuildInfoRes.parse_iff b m rest, never_round_trips ?_ m,
    fun b rest => GuildMemberInfo.parse_iff b x rest, never_round_trips ?_ x⟩
  · intro b m rest h
    obtain ⟨-, gap, rfl⟩ := (GuildInfoRes.parse_iff b m rest).mp h
    rw [List.length_append, GuildInfoRes.length_padded]
    omega
  · intro b m rest h
    obtain ⟨-, gap, rfl⟩ := (GuildMemberInfo.parse_iff b m rest).mp h
    rw [List.length_append, GuildMemberInfo.length_padded]
    omega

/-- A member whose encoding the parser overruns, and a guild whose encoding it
rejects. -/
theorem guild_encodings_not_read_back :
    Overruns GuildMemberInfo.parse (GuildMemberInfo.serialize
      { playerId := 7, playerName := [75, 105, 109], level := 3, rank := 2, joinDate := 5,
        lastOnline := 6 }) ∧
    (∃ s, GuildInfoRes.parse (GuildInfoRes.serialize
      { guildId := 1, guildName := [71], guildDescription := [], memberCount := 1,
        maxMembers := 50, guildType := 0, guildLevel := 1, guildExp := 0, leaderId := 7,
        leaderName := [75, 105, 109] }) = .error .rejected s) :=
  ⟨⟨_, rfl⟩, ⟨_, rfl⟩⟩

/-! ## Elements read from one place -/

namespace MapObjectsUpdate

/-- The list and the names are short enough for their size fields. -/
def Fits (m : MapObjectsUpdate) : Prop :=
  m.objects.length < 2 ^ 32 ∧ ∀ o ∈ m.objects, MapObjectInfo.codec.Fits o

variable {m : MapObjectsUpdate}

/-- Behind the count every object is read from the same place, and the timestamp as
well. -/
theorem tail_iff {mapId updateType objectCount : UInt32} {b : List UInt8} {rest : List UInt8} :
    tail mapId updateType objectCount b = .ok m rest ↔
      (mapId = m.mapId ∧ updateType = m.updateType ∧ m.objects.length = objectCount.toNat) ∧
      (∀ o ∈ m.objects, ∃ t, MapObjectInfo.parse b = .ok o t) ∧
      b = writeLe32 m.timestamp ++ rest := by
  have hitem : Accepts readItem itemCodec.Fits writeLe32 := itemCodec.accepts rfl rfl rfl
  rw [tail_eq]
  simp only [bind_eq_ok, times_byValue_eq_ok]
  constructor
  · rintro ⟨objects, t, ⟨rfl, hlen, hall⟩, timestamp, t', htime, hpure⟩
    cases hpure
    exact ⟨⟨rfl, rfl, hlen⟩, hall, ((hitem _ _ _).mp htime).2⟩
  · rintro ⟨⟨rfl, rfl, hlen⟩, hall, hb⟩
    exact ⟨m.objects, b, ⟨rfl, hlen, hall⟩, m.timestamp, rest,
      (hitem _ _ _).mpr ⟨⟨trivial, trivial⟩, hb⟩, rfl⟩

theorem parse_serialize_eq (m : MapObjectsUpdate) :
    parse m.serialize
      = tail m.mapId m.updateType (UInt32.ofNat m.objects.length)
          (m.objects.flatMap MapObjectInfo.serialize ++ writeLe32 m.timestamp) := by
  have hfits : FitsAll head (m.mapId, m.updateType, UInt32.ofNat m.objects.length, ()) :=
    ⟨trivial, trivial, trivial, trivial⟩
  have hword := (spells_iff rfl _ _).mpr ⟨hfits, rfl⟩
  rw [parse_eq, serialize, List.append_assoc]
  exact readAll_of_spells rfl hword _ _

/-- What is read back has a count and names that fit. -/
theorem fits_of_parse {rest : List UInt8} (h : parse m.serialize = .ok m rest) : m.Fits := by
  rw [parse_serialize_eq, tail_iff] at h
  obtain ⟨⟨-, -, hlen⟩, hall, -⟩ := h
  refine ⟨?_, ?_⟩
  · rw [hlen]
    exact UInt32.toNat_lt _
  · intro o ho
    obtain ⟨t, ht⟩ := hall o ho
    exact ((MapObjectInfo.codec.accepts rfl rfl rfl _ _ _).mp ht).1

/-- The encoding of an object starts with its id. -/
theorem exists_serialize_object (o : MapObjectInfo) :
    ∃ t, o.serialize = writeLe32 o.objectId ++ t := by
  simp only [MapObjectInfo.serialize, List.append_assoc]
  exact ⟨_, rfl⟩

/-- The objects that are read are all the first one, and its id is read for the
timestamp. -/
theorem round_trips_iff (hm : m.Fits) :
    (∃ rest, parse m.serialize = .ok m rest) ↔
      ∀ o ∈ m.objects, (∀ o' ∈ m.objects, o' = o) ∧ m.timestamp = o.objectId := by
  simp only [parse_serialize_eq, tail_iff, true_and, toNat_count hm.1]
  cases hobjects : m.objects with
  | nil =>
    refine iff_of_true ⟨[], by simp⟩ ?_
    rintro o ⟨⟩
  | cons o os =>
    have hbytes : (o :: os).flatMap MapObjectInfo.serialize ++ writeLe32 m.timestamp
        = o.serialize ++ (os.flatMap MapObjectInfo.serialize ++ writeLe32 m.timestamp) := by
      rw [List.flatMap_cons, List.append_assoc]
    have hfit : MapObjectInfo.codec.Fits o := hm.2 o (hobjects ▸ List.mem_cons_self)
    have hfirst : MapObjectInfo.parse _ = _ := MapObjectInfo.codec.roundTrips rfl rfl o
      (os.flatMap MapObjectInfo.serialize ++ writeLe32 m.timestamp) hfit
    obtain ⟨t, ht⟩ := exists_serialize_object o
    have hid := readLe32_writeLe32 o.objectId
      (t ++ (os.flatMap MapObjectInfo.serialize ++ writeLe32 m.timestamp))
    rw [← List.append_assoc, ← ht] at hid
    rw [hbytes]
    constructor
    · rintro ⟨rest, hall, htime⟩
      -- the first object and its id are what is read there
      have hsame : ∀ o' ∈ o :: os, o' = o := by
        intro o' ho'
        obtain ⟨t', ht'⟩ := hall o' ho'
        exact (EStateM.Result.ok.inj (ht'.symm.trans hfirst)).1
      have hstamp : m.timestamp = o.objectId := by
        rw [htime, readLe32_writeLe32] at hid
        exact (EStateM.Result.ok.inj hid).1
      intro o' ho'
      obtain rfl := hsame o' ho'
      exact ⟨hsame, hstamp⟩
    · intro h
      obtain ⟨hsame, hstamp⟩ := h o List.mem_cons_self
      refine ⟨t ++ (os.flatMap MapObjectInfo.serialize ++ writeLe32 m.timestamp), ?_, ?_⟩
      · intro o' ho'
        rw [hsame o' ho']
        exact ⟨_, hfirst⟩
      · rw [ht, ← hstamp, List.append_assoc]

end MapObjectsUpdate

namespace GuildMemberInfo

/-- The eight bytes of the two dates are all the first byte of the player's id. -/
def Uniform (x : GuildMemberInfo) : Prop :=
  ∃ c, writeLe32 x.joinDate = List.replicate 4 c ∧ writeLe32 x.lastOnline = List.replicate 4 c ∧
    (writeLe32 x.playerId).head? = some c

/-- Behind the skipped byte the encoding is read shifted by one. -/
theorem serialize_eq_padded_iff (x : GuildMemberInfo) (gap : UInt8) (t rest : List UInt8) :
    x.serialize ++ t = x.padded gap ++ rest ↔
      writeLe32 x.joinDate ++ (writeLe32 x.lastOnline ++ t)
        = gap :: (writeLe32 x.joinDate ++ (writeLe32 x.lastOnline ++ rest)) := by
  simp [serialize, padded]

/-- A member is read from copies of its encoding if there are at least two and the
shift does not show. -/
theorem parse_copies_iff {x : GuildMemberInfo} (hx : codec.Fits x) (n : Nat) :
    (∃ rest, parse ((List.replicate (n + 1) x).flatMap serialize) = .ok x rest) ↔
      n ≠ 0 ∧ x.Uniform := by
  obtain ⟨j₀, j₁, j₂, j₃, hj, -⟩ := exists_bytes32 x.joinDate
  obtain ⟨l₀, l₁, l₂, l₃, hl, -⟩ := exists_bytes32 x.lastOnline
  obtain ⟨p₀, p₁, p₂, p₃, hp, -⟩ := exists_bytes32 x.playerId
  simp only [parse_iff, hx, true_and, List.replicate_succ, List.flatMap_cons,
    serialize_eq_padded_iff, Uniform, writeLe32, hj, hl, hp]
  cases n with
  | zero => simp
  | succ n =>
    obtain ⟨t, ht⟩ : ∃ t, (List.replicate (n + 1) x).flatMap serialize = p₀ :: t := by
      simp only [List.replicate_succ, List.flatMap_cons, serialize, writeLe32, hp,
        List.append_assoc]
      exact ⟨_, rfl⟩
    rw [ht]
    simp only [List.cons_append, List.nil_append, List.cons.injEq,
      List.replicate_zero, List.head?_cons, Option.some.injEq, and_true]
    constructor
    · rintro ⟨rest, gap, rfl, rfl, rfl, rfl, rfl, rfl, rfl, rfl, rfl, -⟩
      exact ⟨n.succ_ne_zero, _, ⟨rfl, rfl, rfl, rfl⟩, ⟨rfl, rfl, rfl, rfl⟩, rfl⟩
    · rintro ⟨-, c, ⟨rfl, rfl, rfl, rfl⟩, ⟨rfl, rfl, rfl, rfl⟩, rfl⟩
      exact ⟨t, _, rfl, rfl, rfl, rfl, rfl, rfl, rfl, rfl, rfl, rfl⟩

end GuildMemberInfo

namespace GuildMemberListRes

/-- The list and the names are short enough for their size fields. -/
def Fits (m : GuildMemberListRes) : Prop :=
  m.members.length < 2 ^ 32 ∧ ∀ x ∈ m.members, GuildMemberInfo.codec.Fits x

variable {m : GuildMemberListRes}

/-- Behind the count every member is read from the same place. -/
theorem tail_iff {guildId totalMembers page pageSize memberCount : UInt32} {b : List UInt8}
    {rest : List UInt8} :
    tail guildId totalMembers page pageSize memberCount b = .ok m rest ↔
      (guildId = m.guildId ∧ totalMembers = m.totalMembers ∧ page = m.page ∧
        pageSize = m.pageSize ∧ m.members.length = memberCount.toNat) ∧
      (∀ x ∈ m.members, ∃ t, GuildMemberInfo.parse b = .ok x t) ∧ rest = b := by
  simp only [tail, bind_eq_ok, times_byValue_eq_ok]
  constructor
  · rintro ⟨members, t, ⟨rfl, hlen, hall⟩, hpure⟩
    cases hpure
    exact ⟨⟨rfl, rfl, rfl, rfl, hlen⟩, hall, rfl⟩
  · rintro ⟨⟨rfl, rfl, rfl, rfl, hlen⟩, hall, rfl⟩
    exact ⟨m.members, rest, ⟨rfl, hlen, hall⟩, rfl⟩

theorem parse_serialize_eq (m : GuildMemberListRes) :
    parse m.serialize
      = tail m.guildId m.totalMembers m.page m.pageSize (UInt32.ofNat m.members.length)
          (m.members.flatMap GuildMemberInfo.serialize) := by
  have hfits : FitsAll head (m.guildId, m.totalMembers, m.page, m.pageSize,
      UInt32.ofNat m.members.length, ()) :=
    ⟨trivial, trivial, trivial, trivial, trivial, trivial⟩
  have hword := (spells_iff rfl _ _).mpr ⟨hfits, rfl⟩
  rw [parse_eq, serialize]
  exact readAll_of_spells rfl hword _ _

theorem fits_of_parse {rest : List UInt8} (h : parse m.serialize = .ok m rest) : m.Fits := by
  rw [parse_serialize_eq, tail_iff] at h
  obtain ⟨⟨-, -, -, -, hlen⟩, hall, -⟩ := h
  refine ⟨?_, ?_⟩
  · rw [hlen]
    exact UInt32.toNat_lt _
  · intro x hx
    obtain ⟨t, ht⟩ := hall x hx
    exact ((GuildMemberInfo.parse_iff _ _ _).mp ht).1

/-- The list reads its tail in place of the objects, so at most one is right. -/
theorem round_trips_iff (hm : m.Fits) :
    (∃ rest, parse m.serialize = .ok m rest) ↔
      m.members = [] ∨ ∃ x n, m.members = List.replicate (n + 2) x ∧ x.Uniform := by
  simp only [parse_serialize_eq, tail_iff, true_and, toNat_count hm.1, exists_eq_right]
  cases hmembers : m.members with
  | nil =>
    refine iff_of_true ?_ (.inl rfl)
    rintro x ⟨⟩
  | cons x xs =>
    have hcopies : ∀ y n, x :: xs = List.replicate (n + 1) y →
        ((∃ rest, GuildMemberInfo.parse ((x :: xs).flatMap GuildMemberInfo.serialize)
          = .ok y rest) ↔ n ≠ 0 ∧ y.Uniform) := by
      intro y n heq
      have hy : y ∈ m.members := by
        rw [hmembers, heq]
        exact List.mem_cons_self
      rw [heq]
      exact GuildMemberInfo.parse_copies_iff (hm.2 y hy) n
    constructor
    · intro hall
      obtain ⟨t, ht⟩ := hall x List.mem_cons_self
      have hsame : x :: xs = List.replicate (xs.length + 1) x := by
        refine List.eq_replicate_iff.mpr ⟨rfl, fun y hy => ?_⟩
        obtain ⟨t', ht'⟩ := hall y hy
        exact (EStateM.Result.ok.inj (ht'.symm.trans ht)).1
      obtain ⟨hne, huniform⟩ := (hcopies x xs.length hsame).mp ⟨t, ht⟩
      obtain ⟨n, hn⟩ := Nat.exists_eq_succ_of_ne_zero hne
      rw [hn] at hsame
      exact .inr ⟨x, n, hsame, huniform⟩
    · rintro (hnil | ⟨y, n, heq, huniform⟩) z hz
      · cases hnil
      · rw [heq] at hz
        obtain rfl := List.eq_of_mem_replicate hz
        exact (hcopies z (n + 1) heq).mpr ⟨n.succ_ne_zero, huniform⟩

end GuildMemberListRes

/-- **Which lists survive.** An update is read back if it has no objects, or if all
of them are the same and the timestamp is their id. A members' list is read back if
it is empty, or if it has at least two members that are all the same and whose dates
hide the skipped byte. -/
theorem list_round_trips_iff (m : MapObjectsUpdate) (l : GuildMemberListRes) :
    ((∃ rest, MapObjectsUpdate.parse m.serialize = .ok m rest) ↔
      m.Fits ∧ ∀ o ∈ m.objects, (∀ o' ∈ m.objects, o' = o) ∧ m.timestamp = o.objectId) ∧
    ((∃ rest, GuildMemberListRes.parse l.serialize = .ok l rest) ↔
      l.Fits ∧ (l.members = [] ∨ ∃ x n, l.members = List.replicate (n + 2) x ∧ x.Uniform)) := by
  constructor
  · constructor
    · rintro ⟨rest, h⟩
      have hm := MapObjectsUpdate.fits_of_parse h
      exact ⟨hm, (MapObjectsUpdate.round_trips_iff hm).mp ⟨rest, h⟩⟩
    · rintro ⟨hm, h⟩
      exact (MapObjectsUpdate.round_trips_iff hm).mpr h
  · constructor
    · rintro ⟨rest, h⟩
      have hl := GuildMemberListRes.fits_of_parse h
      exact ⟨hl, (GuildMemberListRes.round_trips_iff hl).mp ⟨rest, h⟩⟩
    · rintro ⟨hl, h⟩
      exact (GuildMemberListRes.round_trips_iff hl).mpr h

/-- Of two different objects the first is read twice, with its id for the timestamp,
and a list with one member is overrun. -/
theorem lists_not_read_back :
    (∃ o₁ o₂ : MapObjectInfo, o₁ ≠ o₂ ∧ o₁.objectId ≠ 9 ∧
      ∃ rest, MapObjectsUpdate.parse (MapObjectsUpdate.serialize
        { mapId := 1, updateType := 0, objects := [o₁, o₂], timestamp := 9 })
          = .ok { mapId := 1, updateType := 0, objects := [o₁, o₁], timestamp := o₁.objectId }
            rest) ∧
    Overruns GuildMemberListRes.parse (GuildMemberListRes.serialize
      { guildId := 1, totalMembers := 1, page := 0, pageSize := 20, members := [
        { playerId := 7, playerName := [75, 105, 109], level := 3, rank := 2, joinDate := 5,
          lastOnline := 6 }] }) := by
  refine ⟨⟨
    { objectId := 1, objectType := 0, objectName := [65], x := .zero, y := .zero, z := .zero,
      rotation := .zero, level := 1, hp := 100, maxHp := 100 },
    { objectId := 2, objectType := 1, objectName := [66], x := .zero, y := .zero, z := .zero,
      rotation := .zero, level := 1, hp := 50, maxHp := 50 }, by decide, by decide, ?_⟩, ?_⟩
  · exact ⟨_, rfl⟩
  · exact ⟨_, rfl⟩

end EcsAsioServer.Protocol
