import EcsAsioServer.Game.Lifecycle

/-!
# Owners of cached players

The protocol of the cached players by itself. Channels connect and close, tasks load rows and
store them under their ids, and completions bind channels to rows. The close of a channel
deletes the key of the row that it is bound to.

A key is owned if an open channel is bound to its row, or will be when a completion that waits
runs. For each event there is an exact condition under which every key keeps an owner
(`accounted_apply_iff`, `accounted_close_iff`).
-/

namespace EcsAsioServer

open Db

/-- The channels, the rows they are bound to, the completions that wait, and the keys. -/
@[ext]
structure PlayerCache where
  useEcs : Bool
  channels : ChannelMap Unit
  rows : ChannelMap Int64
  waiting : List Completion
  keys : Finset Int64

/-- The events of the protocol. -/
inductive CacheEvent where
  | connect (channelId : Int32)
  /-- The task of a login has run; `stored` is false without Redis. -/
  | load (completion : Completion) (stored : Bool)
  | complete (i : Nat)
  | close (channelId : Int32)

/-- The key that the event stores. -/
def CacheEvent.stores : CacheEvent → Option Int64
  | .load completion true => completion.record.map PlayerRecord.id
  | _ => none

namespace PlayerCache

/-- The row that the channel of a completion gets bound to. `enter_game` needs the entity
component system, and binds to rows with a positive id only. -/
def binds (C : PlayerCache) (c : Completion) : Option Int64 :=
  if c.channelId ∈ C.channels ∧ C.useEcs then
    (c.record.map PlayerRecord.id).filter fun id => 0 < id
  else none

/-- The key that the event deletes. -/
def deletes (C : PlayerCache) : CacheEvent → Option Int64
  | .close channelId => C.rows.lookup channelId
  | _ => none

/-- The keys that are left of `keys`. -/
def keysAfter (C : PlayerCache) (ev : CacheEvent) (keys : Finset Int64) : Finset Int64 :=
  (keys ∪ ev.stores.toFinset) \ (C.deletes ev).toFinset

/-- What an event does. -/
def apply (C : PlayerCache) (ev : CacheEvent) : PlayerCache :=
  let C' : PlayerCache := { C with keys := C.keysAfter ev C.keys }
  match ev with
  | .connect channelId => { C' with channels := C.channels.insert channelId () }
  | .load completion _ => { C' with waiting := C.waiting ++ [completion] }
  | .complete i =>
    { C' with
      waiting := C.waiting.eraseIdx i
      rows := C.waiting[i]?.elim C.rows fun c =>
        (C.binds c).elim C.rows (C.rows.insert c.channelId) }
  | .close channelId =>
    { C' with channels := C.channels.erase channelId, rows := C.rows.erase channelId }

/-- A channel is bound to the row, or will be when a completion runs. -/
def Owned (C : PlayerCache) (key : Int64) : Prop :=
  (∃ id ∈ C.channels.keys, C.rows.lookup id = some key) ∨ ∃ c ∈ C.waiting, C.binds c = some key

-- the search is over the lists, not over all ids
instance (C : PlayerCache) : DecidablePred C.Owned := fun key =>
  @instDecidableOr _ _ (List.decidableBEx (fun id => C.rows.lookup id = some key) C.channels.keys)
    (List.decidableBEx (fun c => C.binds c = some key) C.waiting)

/-- **Every key has an owner.** -/
def Accounted (C : PlayerCache) : Prop := ∀ key ∈ C.keys, C.Owned key

instance : DecidablePred Accounted := fun _ => Finset.decidableDforallFinset

/-- An open channel other than this one is bound to the row. -/
def BoundElsewhere (C : PlayerCache) (channelId : Int32) (key : Int64) : Prop :=
  ∃ id ∈ C.channels, id ≠ channelId ∧ C.rows.lookup id = some key

/-- The event takes no key its last owner, and stores no key without an owner. -/
def KeepsOwners (C : PlayerCache) : CacheEvent → Prop
  | .connect _ => True
  | .load c stored => ∀ key, (CacheEvent.load c stored).stores = some key →
    C.binds c = some key ∨ C.Owned key
  | .complete i => ∀ c row key, C.waiting[i]? = some c → C.binds c = some row →
    C.rows.lookup c.channelId = some key → key ≠ row → key ∈ C.keys →
      C.BoundElsewhere c.channelId key ∨ ∃ c' ∈ C.waiting, C.binds c' = some key
  | .close channelId => ∀ c key, c ∈ C.waiting → c.channelId = channelId →
    C.binds c = some key → C.rows.lookup channelId ≠ some key → key ∈ C.keys →
      C.BoundElsewhere channelId key ∨
        ∃ c' ∈ C.waiting, c'.channelId ≠ channelId ∧ C.binds c' = some key

/-- Only open channels are bound, and to rows with positive ids. -/
structure Bound (C : PlayerCache) : Prop where
  within : GameServer.Within C.rows C.channels
  positive : ∀ channelId row, C.rows.lookup channelId = some row → 0 < row

section

variable {C : PlayerCache} {key : Int64} {ev : CacheEvent} {c : Completion}

theorem mem_keysAfter {keys : Finset Int64} :
    key ∈ C.keysAfter ev keys ↔ (key ∈ keys ∨ ev.stores = some key) ∧ C.deletes ev ≠ some key := by
  simp [keysAfter, Option.mem_toFinset, Option.mem_def]

theorem mem_keys_apply :
    key ∈ (C.apply ev).keys ↔
      (key ∈ C.keys ∨ ev.stores = some key) ∧ C.deletes ev ≠ some key := by
  have hkeys : (C.apply ev).keys = C.keysAfter ev C.keys := by cases ev <;> rfl
  rw [hkeys, mem_keysAfter]

theorem keysAfter_other (hstores : ev.stores = none) (hdeletes : C.deletes ev = none)
    (keys : Finset Int64) : C.keysAfter ev keys = keys := by
  simp [keysAfter, hstores, hdeletes]

theorem binds_eq_some :
    C.binds c = some key ↔ c.channelId ∈ C.channels ∧ C.useEcs = true ∧
      c.record.map PlayerRecord.id = some key ∧ 0 < key := by
  unfold binds
  split
  · next h => simp [h, Option.filter_eq_some_iff]
  · next h =>
    constructor
    · intro heq
      cases heq
    · intro heq
      exact absurd ⟨heq.1, heq.2.1⟩ h

/-- An owner stays one as long as nothing of it is lost. -/
theorem Owned.mono {C' : PlayerCache} (h : C.Owned key) (hecs : C'.useEcs = C.useEcs)
    (hchannels : ∀ id ∈ C.channels, id ∈ C'.channels)
    (hrows : ∀ id, C.rows.lookup id = some key → C'.rows.lookup id = some key)
    (hwaiting : ∀ c ∈ C.waiting, c ∈ C'.waiting) : C'.Owned key := by
  rcases h with ⟨id, hid, hrow⟩ | ⟨c, hc, hbinds⟩
  · exact .inl ⟨id, hchannels id hid, hrows id hrow⟩
  · obtain ⟨hopen, huse, hrow⟩ := binds_eq_some.mp hbinds
    exact .inr ⟨c, hwaiting c hc,
      binds_eq_some.mpr ⟨hchannels _ hopen, hecs.trans huse, hrow⟩⟩

/-- Who owns a key when a channel has closed. -/
theorem owned_close_iff {channelId : Int32} :
    (C.apply (.close channelId)).Owned key ↔ C.BoundElsewhere channelId key ∨
      ∃ c ∈ C.waiting, c.channelId ≠ channelId ∧ C.binds c = some key := by
  constructor
  · rintro (⟨id, hid, hrow⟩ | ⟨c, hc, hbinds⟩)
    · obtain ⟨hne, hid⟩ := AList.mem_erase.mp hid
      exact .inl ⟨id, hid, hne, (lookup_erase_eq_some.mp hrow).2⟩
    · obtain ⟨hopen, hrest⟩ := binds_eq_some.mp hbinds
      obtain ⟨hne, hopen⟩ := AList.mem_erase.mp hopen
      exact .inr ⟨c, hc, hne, binds_eq_some.mpr ⟨hopen, hrest⟩⟩
  · rintro (⟨id, hid, hne, hrow⟩ | ⟨c, hc, hne, hbinds⟩)
    · exact .inl ⟨id, AList.mem_erase.mpr ⟨hne, hid⟩, lookup_erase_eq_some.mpr ⟨hne, hrow⟩⟩
    · obtain ⟨hopen, hrest⟩ := binds_eq_some.mp hbinds
      exact .inr ⟨c, hc, binds_eq_some.mpr ⟨AList.mem_erase.mpr ⟨hne, hopen⟩, hrest⟩⟩

theorem apply_close_of_notMem {channelId : Int32} (hbound : C.Bound)
    (h : channelId ∉ C.channels) : C.apply (.close channelId) = C := by
  have hrow : channelId ∉ C.rows := fun hmem => h (hbound.within channelId hmem)
  have hdeletes : C.deletes (.close channelId) = none := AList.lookup_eq_none.mpr hrow
  exact PlayerCache.ext rfl (AList.ext (List.kerase_of_notMem_keys h))
    (AList.ext (List.kerase_of_notMem_keys hrow)) rfl (keysAfter_other rfl hdeletes _)

/-- Rows are bound to registered channels only. -/
theorem Bound.apply (h : C.Bound) (ev : CacheEvent) : (C.apply ev).Bound := by
  cases ev with
  | connect channelId => exact ⟨h.within.register channelId, h.positive⟩
  | load c stored => exact ⟨h.within, h.positive⟩
  | close channelId =>
    refine ⟨h.within.unregister channelId, fun id row hrow => ?_⟩
    exact h.positive id row (lookup_erase_eq_some.mp hrow).2
  | complete i =>
    show Bound { C with keys := _, waiting := _, rows := C.waiting[i]?.elim C.rows _ }
    cases C.waiting[i]? with
    | none => exact ⟨h.within, h.positive⟩
    | some c =>
      cases hbinds : C.binds c with
      | none =>
        rw [Option.elim_some, hbinds]
        exact ⟨h.within, h.positive⟩
      | some row =>
        rw [Option.elim_some, hbinds]
        obtain ⟨hopen, -, -, hpos⟩ := binds_eq_some.mp hbinds
        refine ⟨h.within.insert hopen row, fun id row' hrow => ?_⟩
        rcases lookup_insert_eq_some.mp hrow with ⟨-, rfl⟩ | ⟨-, hold⟩
        · exact hpos
        · exact h.positive id row' hold

/-! ### Which events keep the owners -/

theorem accounted_connect (h : C.Accounted) (channelId : Int32) :
    (C.apply (.connect channelId)).Accounted := by
  intro key hkey
  obtain ⟨hkey, -⟩ := mem_keys_apply.mp hkey
  refine (h key (hkey.resolve_right (by simp [CacheEvent.stores]))).mono rfl ?_
    (fun _ hrow => hrow) fun _ hc => hc
  exact fun id hid => (AList.mem_insert _).mpr (.inr hid)

theorem accounted_load_iff (h : C.Accounted) (c : Completion) (stored : Bool) :
    (C.apply (.load c stored)).Accounted ↔ C.KeepsOwners (.load c stored) := by
  constructor
  · intro hload key hstores
    rcases hload key (mem_keys_apply.mpr ⟨.inr hstores, by simp [deletes]⟩) with
      hrow | ⟨c', hc', hbinds⟩
    · exact .inr (.inl hrow)
    · rcases List.mem_append.mp hc' with hold | hnew
      · exact .inr (.inr ⟨c', hold, hbinds⟩)
      · rw [List.mem_singleton.mp hnew] at hbinds
        exact .inl hbinds
  · intro hkeeps key hkey
    have hold : C.Owned key → (C.apply (.load c stored)).Owned key := fun howned =>
      howned.mono rfl (fun _ hid => hid) (fun _ hrow => hrow) fun _ hc =>
        List.mem_append_left _ hc
    rcases (mem_keys_apply.mp hkey).1 with hkey | hstores
    · exact hold (h key hkey)
    · rcases hkeeps key hstores with hbinds | howned
      · exact .inr ⟨c, List.mem_append_right _ (List.mem_singleton_self c), hbinds⟩
      · exact hold howned

/-- The completions that are left. -/
theorem mem_eraseIdx_or (hc : c ∈ C.waiting) (i : Nat) :
    C.waiting[i]? = some c ∨ c ∈ C.waiting.eraseIdx i := by
  obtain ⟨j, hj⟩ := List.mem_iff_getElem?.mp hc
  by_cases hij : j = i
  · exact .inl (hij ▸ hj)
  · exact .inr (List.mem_eraseIdx_iff_getElem?.mpr ⟨j, hij, hj⟩)

/-- What the completion of a row does to an owner. -/
theorem Owned.complete {i : Nat} (h : C.Owned key) (hi : C.waiting[i]? = some c)
    (hother : ∀ row, C.binds c = some row → C.rows.lookup c.channelId = some key → key = row) :
    (C.apply (.complete i)).Owned key := by
  have hrows : (C.apply (.complete i)).rows
      = (C.binds c).elim C.rows (C.rows.insert c.channelId) := by
    show C.waiting[i]?.elim C.rows _ = _
    rw [hi, Option.elim_some]
  rcases h with ⟨id, hid, hrow⟩ | ⟨c', hc', hbinds⟩
  · refine .inl ⟨id, hid, ?_⟩
    rw [hrows]
    cases hbinds : C.binds c with
    | none => exact hrow
    | some row =>
      refine lookup_insert_eq_some.mpr ?_
      by_cases heq : id = c.channelId
      · subst heq
        exact .inl ⟨rfl, (hother row hbinds hrow).symm⟩
      · exact .inr ⟨heq, hrow⟩
  · rcases mem_eraseIdx_or hc' i with hthis | hrest
    · -- the completion of the owner itself: its channel is bound now
      rw [hi] at hthis
      cases hthis
      refine .inl ⟨c.channelId, (binds_eq_some.mp hbinds).1, ?_⟩
      rw [hrows, hbinds]
      exact AList.lookup_insert _
    · exact .inr ⟨c', hrest, hbinds⟩

/-- Who owns a key when a completion has bound its channel to another row. -/
theorem owned_complete_iff {i : Nat} {row : Int64} (hi : C.waiting[i]? = some c)
    (hbinds : C.binds c = some row) (hne : key ≠ row) :
    (C.apply (.complete i)).Owned key ↔ C.BoundElsewhere c.channelId key ∨
      ∃ c' ∈ C.waiting, C.binds c' = some key := by
  have hrows : (C.apply (.complete i)).rows = C.rows.insert c.channelId row := by
    show C.waiting[i]?.elim C.rows _ = _
    rw [hi, Option.elim_some, hbinds, Option.elim_some]
  constructor
  · rintro (⟨id, hid, hrow⟩ | ⟨c', hc', hbinds'⟩)
    · rw [hrows] at hrow
      rcases lookup_insert_eq_some.mp hrow with ⟨-, rfl⟩ | ⟨hid', hold⟩
      · exact absurd rfl hne
      · exact .inl ⟨id, hid, hid', hold⟩
    · exact .inr ⟨c', List.mem_of_mem_eraseIdx hc', hbinds'⟩
  · rintro (⟨id, hid, hid', hold⟩ | ⟨c', hc', hbinds'⟩)
    · refine .inl ⟨id, hid, ?_⟩
      rw [hrows]
      exact lookup_insert_eq_some.mpr (.inr ⟨hid', hold⟩)
    · refine .inr ⟨c', (mem_eraseIdx_or hc' i).resolve_left fun hthis => ?_, hbinds'⟩
      cases hi.symm.trans hthis
      exact hne (Option.some.inj (hbinds'.symm.trans hbinds))

/-- A completion may bind the channel to another row. -/
theorem accounted_complete_iff (h : C.Accounted) (i : Nat) :
    (C.apply (.complete i)).Accounted ↔ C.KeepsOwners (.complete i) := by
  have hkeys : ∀ key, key ∈ (C.apply (.complete i)).keys ↔ key ∈ C.keys := fun key => by
    simp [mem_keys_apply, CacheEvent.stores, deletes]
  constructor
  · intro hcomplete c row key hi hbinds _ hne hkey
    exact (owned_complete_iff hi hbinds hne).mp (hcomplete key ((hkeys key).mpr hkey))
  · intro hkeeps key hkey
    have hkey := (hkeys key).mp hkey
    cases hi : C.waiting[i]? with
    | none =>
      refine (h key hkey).mono rfl (fun _ hid => hid) ?_ ?_
      · intro id hrow
        show (C.waiting[i]?.elim C.rows _).lookup id = _
        rw [hi]
        exact hrow
      · intro c hc
        exact (mem_eraseIdx_or hc i).resolve_left (by simp [hi])
    | some c =>
      by_cases hlost : ∃ row, C.binds c = some row ∧ C.rows.lookup c.channelId = some key ∧
          key ≠ row
      · obtain ⟨row, hbinds, hrow, hne⟩ := hlost
        exact (owned_complete_iff hi hbinds hne).mpr (hkeeps c row key hi hbinds hrow hne hkey)
      · push Not at hlost
        exact (h key hkey).complete hi hlost

/-- A close keeps the account exactly if nobody else owns the key. -/
theorem accounted_close_iff (hbound : C.Bound) (channelId : Int32) :
    (C.apply (.close channelId)).Accounted ↔ C.Accounted ∧ C.KeepsOwners (.close channelId) := by
  have hkeys : ∀ key, key ∈ (C.apply (.close channelId)).keys ↔
      key ∈ C.keys ∧ C.rows.lookup channelId ≠ some key := fun key => by
    simp [mem_keys_apply, CacheEvent.stores, deletes]
  constructor
  · intro hclose
    have howned (key : Int64) (hkey : key ∈ C.keys) (hrow : C.rows.lookup channelId ≠ some key) :=
      owned_close_iff.mp (hclose key ((hkeys key).mpr ⟨hkey, hrow⟩))
    refine ⟨?_, fun c key _ _ _ hrow hkey => howned key hkey hrow⟩
    intro key hkey
    by_cases hrow : C.rows.lookup channelId = some key
    · exact .inl ⟨channelId, hbound.within channelId (mem_of_lookup hrow), hrow⟩
    · rcases howned key hkey hrow with ⟨id, hid, -, hold⟩ | ⟨c, hc, -, hbinds⟩
      · exact .inl ⟨id, hid, hold⟩
      · exact .inr ⟨c, hc, hbinds⟩
  · rintro ⟨h, hkeeps⟩ key hkey
    obtain ⟨hkey, hdeleted⟩ := (hkeys key).mp hkey
    rw [owned_close_iff]
    rcases h key hkey with ⟨id, hid, hrow⟩ | ⟨c, hc, hbinds⟩
    · have hne : id ≠ channelId := by
        rintro rfl
        exact hdeleted hrow
      exact .inl ⟨id, hid, hne, hrow⟩
    · by_cases hthis : c.channelId = channelId
      · exact hkeeps c key hc hthis hbinds hdeleted hkey
      · exact .inr ⟨c, hc, hthis, hbinds⟩

theorem accounted_apply_iff (hbound : C.Bound) (h : C.Accounted) (ev : CacheEvent) :
    (C.apply ev).Accounted ↔ C.KeepsOwners ev := by
  cases ev with
  | connect channelId => exact iff_of_true (accounted_connect h channelId) trivial
  | load c stored => exact accounted_load_iff h c stored
  | complete i => exact accounted_complete_iff h i
  | close channelId => rw [accounted_close_iff hbound, and_iff_right h]

/-- The protocol does not depend on which keys are looked at. -/
theorem apply_keys (C : PlayerCache) (ev : CacheEvent) (keys : Finset Int64) :
    { C with keys }.apply ev = { C.apply ev with keys := C.keysAfter ev keys } := by
  cases ev <;> rfl

end

end PlayerCache

end EcsAsioServer
