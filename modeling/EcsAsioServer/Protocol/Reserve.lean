import EcsAsioServer.Protocol.Cursor

/-!
# The room that the list parsers reserve

The parsers of the three messages with a list pass the count of the message to
`vector::reserve` before they read the first element. `parseReserving` is each parser
with that call, and `reservations` are its arguments.

- `reservesWithin_iff`: what a parser reserves is decided by its first fields.
- `reserve_bounded_iff`: the count is never compared with what is left. The room is
  bounded by the input exactly for the inputs whose count says no more than they hold,
  and for those that the first check rejects. The parser of the guild members reads the
  count of 16 to 19 bytes behind the end, and reserves whatever it finds there.
- Items are read one behind the other, so the room for an accepted combat result was
  bounded. Members and objects are all read from one place, so a list with the bytes of
  one element is accepted with every count (`parse_any_count`).
-/

namespace EcsAsioServer.Protocol

open StateProgram Records

/-- The count that is passed to `reserve` is read from the input, and it is at most the
number of elements, of `size` bytes or more each, that the bytes behind it can hold. -/
def ReservesWithin {M : Type} (size : Nat) (parse : ListReader M) (b : List UInt8) : Prop :=
  (∀ s, parse (b, []) = .error .outOfBounds s → s.2 ≠ []) ∧
    ∀ r ∈ reservations parse b, r.count.toNat ≤ r.unread.length / size

section FirstFields

variable {σ M : Type} {x : Reader σ} {count : σ → UInt32} {f : σ → Reader M} {b : List UInt8}
  {size : Nat}

theorem reservesWithin_of_rejects {s : List UInt8} (h : x b = .error .rejected s) :
    ReservesWithin size (readReserving x count f) b := by
  rw [ReservesWithin, reservations_error h, readReserving_error h]
  exact ⟨nofun, nofun⟩

theorem not_reservesWithin_of_overruns {s : List UInt8} (h : x b = .error .outOfBounds s) :
    ¬ReservesWithin size (readReserving x count f) b :=
  fun hwithin => hwithin.1 (s, []) (readReserving_error h) rfl

/-- Once the first fields are read, the count among them decides. -/
theorem reservesWithin_iff {v : σ} {rest : List UInt8} (h : x b = .ok v rest) :
    ReservesWithin size (readReserving x count f) b ↔
      (count v).toNat ≤ rest.length / size := by
  have hreserved : ∀ s, readReserving x count f (b, []) = .error .outOfBounds s →
      s.2 ≠ [] := by
    intro s hs hnil
    have hlog : reservations (readReserving x count f) b = s.2 := by
      rw [reservations, after, hs]
    rw [reservations_ok h, hnil] at hlog
    cases hlog
  rw [ReservesWithin, and_iff_right hreserved, reservations_ok h, List.forall_mem_singleton]

end FirstFields

namespace CombatResultNotify

variable {b : List UInt8}

theorem head_read (h : 20 ≤ b.length) : readAll head pure b
    = .ok (wordAt b 0, wordAt b 4, wordAt b 8, wordAt b 12, wordAt b 16, ()) (b.drop 20) := by
  show readAll [.check 20, u32, u32, u32, u32, u32] pure (b.drop 0) = _
  rw [readAll_check (by simpa using h)]
  iterate 5 rw [readAll_u32 (by omega)]
  rfl

theorem reserves_iff (b : List UInt8) : ReservesWithin 4 parseReserving b ↔
    b.length < 20 ∨ 20 + 4 * sizeAt b 16 ≤ b.length := by
  rw [parseReserving_eq]
  by_cases h : 20 ≤ b.length
  · rw [reservesWithin_iff (head_read h), List.length_drop]
    show sizeAt b 16 ≤ _ ↔ _
    omega
  · have hlt := Nat.not_le.mp h
    exact iff_of_true (reservesWithin_of_rejects (readAll_check_rejects hlt)) (.inl hlt)

/-- The items follow each other, so as many as are announced were there. -/
theorem reservesWithin_of_parse {m : CombatResultNotify} {rest : List UInt8}
    (h : parse b = .ok m rest) : ReservesWithin 4 parseReserving b := by
  rw [reserves_iff]
  by_cases hle : 20 ≤ b.length
  · rw [parse_eq, readAll_eq_bind, bind_ok (head_read hle)] at h
    obtain ⟨⟨-, -, -, -, hcount⟩, hrest⟩ := tail_iff.mp h
    have hitems : (m.itemIds.flatMap writeLe32).length = 4 * m.itemIds.length := by
      simp [List.length_flatMap, writeLe32, Nat.mul_comm]
    have hlength := congrArg List.length hrest
    rw [List.length_drop, List.length_append, hitems, ← hcount] at hlength
    rw [sizeAt]
    omega
  · exact .inl (Nat.not_le.mp hle)

/-- A combat result that announces more items than it holds is rejected. -/
theorem parse_rejects (h : ¬ReservesWithin 4 parseReserving b) :
    ∃ s, parse b = .error .rejected s := by
  cases hparse : parse b with
  | ok m rest => exact absurd (reservesWithin_of_parse hparse) h
  | error e s =>
    cases e with
    | rejected => exact ⟨s, rfl⟩
    | outOfBounds => exact absurd hparse (parse_exact.inBounds b s)

end CombatResultNotify

namespace GuildMemberListRes

theorem reserves_iff (b : List UInt8) : ReservesWithin 21 parseReserving b ↔
    b.length < 16 ∨ 20 + 21 * sizeAt b 16 ≤ b.length := by
  rw [parseReserving_eq]
  by_cases h20 : 20 ≤ b.length
  · rw [reservesWithin_iff (head_read h20), List.length_drop]
    show sizeAt b 16 ≤ _ ↔ _
    omega
  · by_cases h16 : 16 ≤ b.length
    · obtain ⟨s, hs⟩ := head_cut h16 (Nat.not_le.mp h20)
      exact iff_of_false (not_reservesWithin_of_overruns hs) (by omega)
    · have hlt := Nat.not_le.mp h16
      exact iff_of_true (reservesWithin_of_rejects (readAll_check_rejects hlt)) (.inl hlt)

/-- The bytes of one member are enough for every count. -/
theorem parse_any_count {b t : List UInt8} {x : GuildMemberInfo} (h : 20 ≤ b.length)
    (hx : GuildMemberInfo.parse (b.drop 20) = .ok x t) :
    ∃ m, parse b = .ok m (b.drop 20) ∧ m.members = List.replicate (sizeAt b 16) x := by
  refine ⟨⟨wordAt b 0, wordAt b 4, wordAt b 8, wordAt b 12, List.replicate (sizeAt b 16) x⟩,
    ?_, rfl⟩
  rw [parse_of_le h, tail_iff]
  refine ⟨⟨rfl, rfl, rfl, rfl, List.length_replicate⟩, ?_, rfl⟩
  intro y hy
  rw [List.eq_of_mem_replicate hy]
  exact ⟨t, hx⟩

end GuildMemberListRes

namespace MapObjectsUpdate

theorem reserves_iff (b : List UInt8) : ReservesWithin 37 parseReserving b ↔
    b.length < 12 ∨ 12 + 37 * sizeAt b 8 ≤ b.length := by
  rw [parseReserving_eq]
  by_cases h : 12 ≤ b.length
  · rw [reservesWithin_iff (head_read h), List.length_drop]
    show sizeAt b 8 ≤ _ ↔ _
    omega
  · have hlt := Nat.not_le.mp h
    exact iff_of_true (reservesWithin_of_rejects (readAll_check_rejects hlt)) (.inl hlt)

/-- The bytes of one object are enough for every count; its id is taken for the
timestamp. -/
theorem parse_any_count {b t : List UInt8} {o : MapObjectInfo} (h : 12 ≤ b.length)
    (ho : MapObjectInfo.parse (b.drop 12) = .ok o t) :
    ∃ m, parse b = .ok m (b.drop 16) ∧ m.objects = List.replicate (sizeAt b 8) o := by
  have hrest : b.drop 12 = o.serialize ++ t :=
    ((MapObjectInfo.codec.accepts rfl rfl rfl _ _ _).mp ho).2
  obtain ⟨u, hu⟩ := exists_serialize_object o
  refine ⟨⟨wordAt b 0, wordAt b 4, List.replicate (sizeAt b 8) o, o.objectId⟩, ?_, rfl⟩
  rw [parse_of_le h, tail_iff]
  refine ⟨⟨rfl, rfl, List.length_replicate⟩, ?_, ?_⟩
  · intro y hy
    rw [List.eq_of_mem_replicate hy]
    exact ⟨t, ho⟩
  · have hdrop : b.drop 16 = (b.drop 12).drop 4 := by rw [List.drop_drop]
    rw [hdrop, hrest, hu]
    rfl

end MapObjectsUpdate

/-- **What is reserved is bounded by the input only if the input says so.** The room
for the items, the members and the objects is at most what the bytes behind the count
can hold exactly when the input is too short for the first check, or as long as its count
says. A combat result that is accepted is such a message. The two other lists are accepted
with every count as soon as one element can be read. -/
theorem reserve_bounded_iff (b : List UInt8) :
    ((ReservesWithin 4 CombatResultNotify.parseReserving b ↔
        b.length < 20 ∨ 20 + 4 * sizeAt b 16 ≤ b.length) ∧
      ∀ m rest, CombatResultNotify.parse b = .ok m rest →
        ReservesWithin 4 CombatResultNotify.parseReserving b) ∧
    ((ReservesWithin 21 GuildMemberListRes.parseReserving b ↔
        b.length < 16 ∨ 20 + 21 * sizeAt b 16 ≤ b.length) ∧
      ∀ x t, 20 ≤ b.length → GuildMemberInfo.parse (b.drop 20) = .ok x t →
        ∃ m, GuildMemberListRes.parse b = .ok m (b.drop 20) ∧
          m.members = List.replicate (sizeAt b 16) x) ∧
    ((ReservesWithin 37 MapObjectsUpdate.parseReserving b ↔
        b.length < 12 ∨ 12 + 37 * sizeAt b 8 ≤ b.length) ∧
      ∀ o t, 12 ≤ b.length → MapObjectInfo.parse (b.drop 12) = .ok o t →
        ∃ m, MapObjectsUpdate.parse b = .ok m (b.drop 16) ∧
          m.objects = List.replicate (sizeAt b 8) o) :=
  ⟨⟨CombatResultNotify.reserves_iff b, fun _ _ => CombatResultNotify.reservesWithin_of_parse⟩,
    ⟨GuildMemberListRes.reserves_iff b, fun _ _ => GuildMemberListRes.parse_any_count⟩,
    ⟨MapObjectsUpdate.reserves_iff b, fun _ _ => MapObjectsUpdate.parse_any_count⟩⟩

/-- Twenty bytes, or twelve, have room reserved for 4294967295 elements, with no byte
left to read one from. With the bytes of a single member behind them all of these are
accepted. Of sixteen bytes not even the count is there. -/
theorem reserve_unbounded :
    (reservations CombatResultNotify.parseReserving (List.replicate 16 0 ++ List.replicate 4 255)
        = [⟨4294967295, []⟩] ∧
      ¬ReservesWithin 4 CombatResultNotify.parseReserving
        (List.replicate 16 0 ++ List.replicate 4 255) ∧
      ∃ s, CombatResultNotify.parse (List.replicate 16 0 ++ List.replicate 4 255)
        = .error .rejected s) ∧
    (reservations GuildMemberListRes.parseReserving (List.replicate 16 0 ++ List.replicate 4 255)
        = [⟨4294967295, []⟩] ∧
      ¬ReservesWithin 21 GuildMemberListRes.parseReserving
        (List.replicate 16 0 ++ List.replicate 4 255) ∧
      (∃ m, GuildMemberListRes.parse
          (List.replicate 16 0 ++ List.replicate 4 255 ++ List.replicate 22 0)
          = .ok m (List.replicate 22 0) ∧ m.members.length = 4294967295) ∧
      ¬ReservesWithin 21 GuildMemberListRes.parseReserving (List.replicate 16 0)) ∧
    reservations MapObjectsUpdate.parseReserving (List.replicate 8 0 ++ List.replicate 4 255)
      = [⟨4294967295, []⟩] ∧
    ¬ReservesWithin 37 MapObjectsUpdate.parseReserving
      (List.replicate 8 0 ++ List.replicate 4 255) := by
  have hcombat : ¬ReservesWithin 4 CombatResultNotify.parseReserving
      (List.replicate 16 0 ++ List.replicate 4 255) := by
    rw [CombatResultNotify.reserves_iff]
    decide
  refine ⟨⟨?_, hcombat, CombatResultNotify.parse_rejects hcombat⟩, ⟨?_, ?_, ?_, ?_⟩, ?_, ?_⟩
  · rw [CombatResultNotify.parseReserving_eq]
    exact reservations_ok (CombatResultNotify.head_read (by decide))
  · rw [GuildMemberListRes.parseReserving_eq]
    exact reservations_ok (GuildMemberListRes.head_read (by decide))
  · rw [GuildMemberListRes.reserves_iff]
    decide
  · obtain ⟨m, hm, hmembers⟩ := GuildMemberListRes.parse_any_count
      (b := List.replicate 16 0 ++ List.replicate 4 255 ++ List.replicate 22 0) (by decide) rfl
    refine ⟨m, hm, ?_⟩
    rw [hmembers, List.length_replicate]
    rfl
  · rw [GuildMemberListRes.reserves_iff]
    decide
  · rw [MapObjectsUpdate.parseReserving_eq]
    exact reservations_ok (MapObjectsUpdate.head_read (by decide))
  · rw [MapObjectsUpdate.reserves_iff]
    decide

end EcsAsioServer.Protocol
