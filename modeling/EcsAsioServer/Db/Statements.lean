import EcsAsioServer.Db.FailureSink

/-!
# Save statements (`server/db/dao/player_dao.cpp`)

`save_position` and `save_stats` print their `UPDATE` into a buffer of 256 bytes. The statement
ends with the id of the row, so a statement that is cut off may be one for another row. The
widest numbers still leave room: a finite float has at most 45 characters, a 32-bit integer 11
and a 64-bit integer 20. So nothing is ever cut off, and the row that a statement names is the
one that it was printed for (`save_statements_complete`).
-/

namespace EcsAsioServer.Db

open Protocol Json

/-! ## The statements -/

/-- `char q[256]`. -/
def querySize : Nat := 256

/-- The text of `save_position`. -/
def savePositionText (id : Int64) (x y z : F32) (mapId : Int32) : List UInt8 :=
  ascii "UPDATE players SET pos_x=" ++ fixed4 x ++ ascii ", pos_y=" ++ fixed4 y
    ++ ascii ", pos_z=" ++ fixed4 z ++ ascii ", map_id=" ++ decimal mapId.toInt
    ++ ascii ", last_login=NOW() " ++ ascii "WHERE id=" ++ decimal id.toInt

/-- The text of `save_stats`. -/
def saveStatsText (id : Int64) (level exp hp : Int32) : List UInt8 :=
  ascii "UPDATE players SET level=" ++ decimal level.toInt ++ ascii ", exp=" ++ decimal exp.toInt
    ++ ascii ", hp=" ++ decimal hp.toInt ++ ascii " WHERE id=" ++ decimal id.toInt

/-- The statement of `save_position`. -/
def savePositionQuery (id : Int64) (x y z : F32) (mapId : Int32) : List UInt8 :=
  snprintf querySize (savePositionText id x y z mapId)

/-- The statement of `save_stats`. -/
def saveStatsQuery (id : Int64) (level exp hp : Int32) : List UInt8 :=
  snprintf querySize (saveStatsText id level exp hp)

/-- The statement ends with the condition for the row. -/
def NamesRow (query : List UInt8) (id : Int64) : Prop :=
  ascii "WHERE id=" ++ decimal id.toInt <:+ query

/-! ## Widths -/

theorem length_digitsOf_le {n k : Nat} (hk : 0 < k) (h : n < 10 ^ k) :
    (digitsOf n).length ≤ k := by
  rw [digitsOf, List.length_map]
  exact (Nat.length_toDigits_le_iff (by decide) hk).mpr h

/-- A sign and the digits. -/
theorem length_decimal_le {z : ℤ} {k : Nat} (hk : 0 < k) (h : z.natAbs < 10 ^ k) :
    (decimal z).length ≤ k + 1 := by
  have hdigits := length_digitsOf_le hk h
  rw [decimal_eq, Numeral.print_ofInt]
  split
  · rw [List.length_cons]
    omega
  · omega

theorem length_decimal_int32 (n : Int32) : (decimal n.toInt).length ≤ 11 := by
  have hlow := n.le_toInt
  have hhigh := n.toInt_lt
  exact length_decimal_le (k := 10) (by decide) (by omega)

theorem length_decimal_int64 (n : Int64) : (decimal n.toInt).length ≤ 20 := by
  have hlow := n.le_toInt
  have hhigh := n.toInt_lt
  exact length_decimal_le (k := 19) (by decide) (by omega)

theorem length_padded (k n : Nat) : (padded k n).length = k := by
  induction k generalizing n with
  | zero => rfl
  | succ k ih => rw [padded, List.length_append, ih, List.length_singleton]

theorem significand_lt (x : F32) : significand x < 2 ^ 24 := by
  have hfraction : fractionField x < 2 ^ 23 := Nat.mod_lt _ (by decide)
  unfold significand
  split <;> omega

theorem roundHalfEven_le (n d : Nat) : roundHalfEven n d ≤ n / d + 1 := by
  unfold roundHalfEven
  dsimp only
  split <;> omega

variable {x : F32}

/-- Finite floats are below 2¹²⁸, also when they are rounded. -/
theorem tenThousandths_lt (h : isFinite x = true) :
    tenThousandths x / 10000 < 2 ^ 128 := by
  have hsignificand := significand_lt x
  have hexponent : exponentField x ≤ 254 := by
    have hlt : exponentField x < 2 ^ 8 := Nat.mod_lt _ (by decide)
    have hne : exponentField x ≠ 255 := of_decide_eq_true h
    omega
  unfold tenThousandths
  dsimp only
  split
  · have hscale : 2 ^ (max 1 (exponentField x) - 150) ≤ 2 ^ 104 :=
      Nat.pow_le_pow_right (by decide) (by omega)
    rw [Nat.mul_div_cancel _ (by decide)]
    calc significand x * 2 ^ (max 1 (exponentField x) - 150)
        < 2 ^ 24 * 2 ^ 104 := Nat.mul_lt_mul_of_lt_of_le hsignificand hscale (by decide)
      _ = 2 ^ 128 := by decide
  · -- the value is below 2²⁴ here
    have hround := roundHalfEven_le (significand x * 10000) (2 ^ (150 - max 1 (exponentField x)))
    have hdiv := Nat.div_le_self (significand x * 10000) (2 ^ (150 - max 1 (exponentField x)))
    omega

/-- A sign, 39 digits, the point and four digits. -/
theorem length_fixed4 (h : isFinite x = true) : (fixed4 x).length ≤ 45 := by
  have hdigits : (digitsOf (tenThousandths x / 10000)).length ≤ 39 :=
    length_digitsOf_le (by decide) (Nat.lt_trans (tenThousandths_lt h) (by decide))
  have hpoint : (ascii ".").length = 1 := rfl
  have hsign : (ascii "-").length = 1 := rfl
  unfold fixed4
  dsimp only
  rw [if_pos h, decimal_natCast]
  split <;> simp only [List.length_append, length_padded, hpoint, hsign] <;> omega

theorem length_savePositionText (id : Int64) {y z : F32} (hx : isFinite x = true)
    (hy : isFinite y = true) (hz : isFinite z = true) (mapId : Int32) :
    (savePositionText id x y z mapId).length ≤ 244 := by
  have hliterals : (ascii "UPDATE players SET pos_x=").length + (ascii ", pos_y=").length
      + (ascii ", pos_z=").length + (ascii ", map_id=").length
      + (ascii ", last_login=NOW() ").length + (ascii "WHERE id=").length = 78 := by decide
  have hxlen := length_fixed4 hx
  have hylen := length_fixed4 hy
  have hzlen := length_fixed4 hz
  have hmap := length_decimal_int32 mapId
  have hid := length_decimal_int64 id
  simp only [savePositionText, List.length_append]
  omega

theorem length_saveStatsText (id : Int64) (level exp hp : Int32) :
    (saveStatsText id level exp hp).length ≤ 99 := by
  have hliterals : (ascii "UPDATE players SET level=").length + (ascii ", exp=").length
      + (ascii ", hp=").length + (ascii " WHERE id=").length = 46 := by decide
  have hlevel := length_decimal_int32 level
  have hexp := length_decimal_int32 exp
  have hhp := length_decimal_int32 hp
  have hid := length_decimal_int64 id
  simp only [saveStatsText, List.length_append]
  omega

/-! ## Rows -/

theorem decimal_injective : Function.Injective decimal := by
  intro a b h
  have hdash : ∀ n, (0x2D : UInt8) ∉ digitsOf n := fun n hmem => by
    cases digit_of_mem_digitsOf hmem
  have hdigits : ∀ n m, digitsOf n = digitsOf m → n = m := fun n m heq => by
    rw [← natOf_digitsOf n, heq, natOf_digitsOf]
  rw [decimal_eq, decimal_eq, Numeral.print_ofInt, Numeral.print_ofInt] at h
  split at h <;> split at h
  · have := hdigits _ _ (List.cons.inj h).2
    omega
  · exact absurd (h ▸ List.mem_cons_self) (hdash b.natAbs)
  · exact absurd (h ▸ List.mem_cons_self) (hdash a.natAbs)
  · have := hdigits _ _ h
    omega

/-- What stands behind the last `=`. -/
def afterEquals (query : List UInt8) : List UInt8 := (query.reverse.takeWhile (· ≠ 0x3D)).reverse

theorem equals_not_mem_decimal (z : ℤ) : (0x3D : UInt8) ∉ decimal z := by
  rw [decimal_eq, Numeral.print_ofInt]
  intro hmem
  have hdigits : (0x3D : UInt8) ∉ digitsOf z.natAbs := fun hmem => by
    cases digit_of_mem_digitsOf hmem
  split at hmem
  · exact hdigits ((List.mem_cons.mp hmem).resolve_left (by decide))
  · exact hdigits hmem

theorem namesRow_append (start : List UInt8) (id : Int64) :
    NamesRow (start ++ ascii "WHERE id=" ++ decimal id.toInt) id :=
  ⟨start, (List.append_assoc ..).symm⟩

/-- A statement names the row whose id stands behind its last `=`. -/
theorem NamesRow.afterEquals_eq {query : List UInt8} {id : Int64} (h : NamesRow query id) :
    afterEquals query = decimal id.toInt := by
  obtain ⟨start, rfl⟩ := h
  have hend : ascii "WHERE id=" = ascii "WHERE id" ++ [0x3D] := rfl
  have hpass : ∀ c ∈ (decimal id.toInt).reverse, decide (c ≠ 0x3D) = true := by
    intro c hc
    refine decide_eq_true ?_
    rintro rfl
    exact equals_not_mem_decimal _ (List.mem_reverse.mp hc)
  have hreverse : (start ++ (ascii "WHERE id=" ++ decimal id.toInt)).reverse =
      (decimal id.toInt).reverse ++ 0x3D :: ((ascii "WHERE id").reverse ++ start.reverse) := by
    simp [hend]
  rw [afterEquals, hreverse, List.takeWhile_append_of_pos hpass,
    List.takeWhile_cons_of_neg (by decide), List.append_nil, List.reverse_reverse]

theorem NamesRow.unique {query : List UInt8} {id id' : Int64} (h : NamesRow query id)
    (h' : NamesRow query id') : id' = id :=
  Int64.toInt_inj.mp (decimal_injective (h'.afterEquals_eq.symm.trans h.afterEquals_eq))

/-- **Statements are complete.** For all finite positions and all integers the text has at most
255 characters, so the statement is all of it and names the row of the id and no other. -/
theorem save_statements_complete (id : Int64) (x y z : F32) (hx : isFinite x = true)
    (hy : isFinite y = true) (hz : isFinite z = true) (mapId level exp hp : Int32) :
    (savePositionText id x y z mapId).length ≤ 255 ∧
    savePositionQuery id x y z mapId = savePositionText id x y z mapId ∧
    (∀ id', NamesRow (savePositionQuery id x y z mapId) id' ↔ id' = id) ∧
    (saveStatsText id level exp hp).length ≤ 255 ∧
    saveStatsQuery id level exp hp = saveStatsText id level exp hp ∧
    (∀ id', NamesRow (saveStatsQuery id level exp hp) id' ↔ id' = id) := by
  have hposition := length_savePositionText id hx hy hz mapId
  have hstats := length_saveStatsText id level exp hp
  have hposition' : savePositionQuery id x y z mapId = savePositionText id x y z mapId :=
    snprintf_eq (Nat.lt_of_le_of_lt hposition (by decide))
  have hstats' : saveStatsQuery id level exp hp = saveStatsText id level exp hp :=
    snprintf_eq (Nat.lt_of_le_of_lt hstats (by decide))
  have hnames : NamesRow (savePositionText id x y z mapId) id := by
    rw [savePositionText]
    exact namesRow_append _ id
  have hnames' : NamesRow (saveStatsText id level exp hp) id := by
    have hspace : ascii " WHERE id=" = ascii " " ++ ascii "WHERE id=" := rfl
    rw [saveStatsText, hspace, ← List.append_assoc]
    exact namesRow_append _ id
  refine ⟨by omega, hposition', ?_, by omega, hstats', ?_⟩
  · intro id'
    rw [hposition']
    refine ⟨hnames.unique, ?_⟩
    rintro rfl
    exact hnames
  · intro id'
    rw [hstats']
    refine ⟨hnames'.unique, ?_⟩
    rintro rfl
    exact hnames'

/-- The widest floats, with the lowest integers. -/
theorem save_statements_widest :
    (savePositionText Int64.minValue ⟨0xFF7FFFFF⟩ ⟨0xFF7FFFFF⟩ ⟨0xFF7FFFFF⟩ Int32.minValue).length
      = 244 ∧
    ∀ id', NamesRow (savePositionQuery Int64.minValue ⟨0xFF7FFFFF⟩ ⟨0xFF7FFFFF⟩ ⟨0xFF7FFFFF⟩
      Int32.minValue) id' ↔ id' = Int64.minValue :=
  ⟨by decide +kernel, (save_statements_complete Int64.minValue ⟨0xFF7FFFFF⟩ ⟨0xFF7FFFFF⟩
    ⟨0xFF7FFFFF⟩ (by decide +kernel) (by decide +kernel) (by decide +kernel) Int32.minValue 0 0
    0).2.2.1⟩

end EcsAsioServer.Db
