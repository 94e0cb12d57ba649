import EcsAsioServer.Db.Texts

/-!
# Failed saves (`server/db/failure_sink.cpp`)

`FailureSink::record` prints a snapshot of a failed save as one line of JSON, from which the save
could be repeated later. The line is printed into a buffer of 1024 bytes, only quotation marks
and backslashes are escaped, and `%s` stops at a zero byte. So the line holds the snapshot
exactly if it fits into the buffer and its texts are UTF-8 without control bytes
(`record_replays_iff`).
-/

namespace EcsAsioServer.Db

open Protocol Json TextParser

/-! ## Printing -/

/-- What `gmtime` says of the clock. -/
structure Tm where
  year : Fin 10000
  month : Fin 13
  day : Fin 32
  hour : Fin 24
  minute : Fin 60
  second : Fin 61

/-- The last `k` digits of a number. -/
def padded : Nat → Nat → List UInt8
  | 0, _ => []
  | k + 1, n => padded k (n / 10) ++ [(0x30 + n % 10).toUInt8]

/-- The parts of `%Y-%m-%dT%H:%M:%SZ`. -/
def timeParts (t : Tm) : List (List UInt8) :=
  [decimal t.year, ascii "-", padded 2 t.month, ascii "-", padded 2 t.day, ascii "T",
    padded 2 t.hour, ascii ":", padded 2 t.minute, ascii ":", padded 2 t.second, ascii "Z"]

/-- `%Y-%m-%dT%H:%M:%SZ`. -/
def strftime (t : Tm) : List UInt8 := (timeParts t).flatten

/-- The exponent as it is stored. -/
def exponentField (x : F32) : Nat := x.bits.toNat / 2 ^ 23 % 2 ^ 8

/-- The fraction as it is stored. -/
def fractionField (x : F32) : Nat := x.bits.toNat % 2 ^ 23

/-- The sign. -/
def signBit (x : F32) : Bool := 2 ^ 31 ≤ x.bits.toNat

/-- Neither an infinity nor a NaN. -/
def isFinite (x : F32) : Bool := exponentField x ≠ 255

/-- The fraction with the leading bit, which subnormal numbers lack. -/
def significand (x : F32) : Nat :=
  if exponentField x = 0 then fractionField x else 2 ^ 23 + fractionField x

/-- `n / d`, rounded to the nearest integer, halves to the even one. -/
def roundHalfEven (n d : Nat) : Nat :=
  let q := n / d
  let r := n % d
  if d < 2 * r ∨ d = 2 * r ∧ q % 2 = 1 then q + 1 else q

/-- The size of a finite float in units of 0.0001; it is `significand * 2 ^ (exponent - 150)`. -/
def tenThousandths (x : F32) : Nat :=
  let exponent := max 1 (exponentField x)
  if 150 ≤ exponent then significand x * 2 ^ (exponent - 150) * 10000
  else roundHalfEven (significand x * 10000) (2 ^ (150 - exponent))

/-- `%.4f`. -/
def fixed4 (x : F32) : List UInt8 :=
  let digits :=
    if isFinite x then
      let n := tenThousandths x
      decimal (n / 10000 : Nat) ++ (ascii "." ++ padded 4 n)
    else if fractionField x = 0 then ascii "inf" else ascii "nan"
  if signBit x then ascii "-" ++ digits else digits

/-! ## `FailureSink` -/

/-- The file, if it could be opened, and `stderr`. -/
structure FailureSink where
  file : Option (List UInt8) := none
  stderr : List UInt8 := []

namespace FailureSink

/-- One round of `esc`. -/
def escByte (c : UInt8) : List UInt8 :=
  if c = 0x22 then ascii "\\\"" else if c = 0x5C then ascii "\\\\" else [c]

/-- `esc`: only quotation marks and backslashes are escaped. -/
def esc (src : List UInt8) : List UInt8 := src.flatMap escByte

/-- What `snprintf` would print into a buffer that is large enough. -/
def format (ts : Tm) (s : PlayerSaveSnapshot) : List UInt8 :=
  ascii "\x7b\"ts\":\"" ++ strftime ts ++ ascii "\",\"op\":\"" ++ cString s.operation
    ++ ascii "\",\"player_id\":" ++ decimal s.playerId.toInt
    ++ ascii ",\"name\":\"" ++ cString (esc s.playerName) ++ ascii "\","
    ++ ascii "\"x\":" ++ fixed4 s.posX ++ ascii ",\"y\":" ++ fixed4 s.posY
    ++ ascii ",\"z\":" ++ fixed4 s.posZ ++ ascii ",\"map_id\":" ++ decimal s.mapId.toInt
    ++ ascii "," ++ ascii "\"level\":" ++ decimal s.level.toInt
    ++ ascii ",\"exp\":" ++ decimal s.exp.toInt ++ ascii ",\"hp\":" ++ decimal s.hp.toInt
    ++ ascii ",\"attempts\":" ++ decimal s.attempts.toInt
    ++ ascii ",\"error\":\"" ++ cString (esc s.errorMsg) ++ ascii "\"\x7d"

/-- `char line[1024]`. -/
def lineSize : Nat := 1024

/-- What is in the buffer. -/
def line (ts : Tm) (s : PlayerSaveSnapshot) : List UInt8 := snprintf lineSize (format ts s)

/-- Bytes to the file if it is open, else to `stderr`. -/
def append (sink : FailureSink) (bytes : List UInt8) : FailureSink :=
  match sink.file with
  | some contents => { sink with file := some (contents ++ bytes) }
  | none => { sink with stderr := sink.stderr ++ bytes }

/-- `record`, at the time `ts`. A write to the file may fail after some bytes; then the line goes
to `stderr`. -/
def record (sink : FailureSink) (ts : Tm) (failsAfter : Option Nat) (s : PlayerSaveSnapshot) :
    FailureSink :=
  let bytes := line ts s ++ ascii "\n"
  match sink.file, failsAfter with
  | some contents, some n =>
    { file := some (contents ++ bytes.take n), stderr := sink.stderr ++ bytes }
  | _, _ => sink.append bytes

/-! ## Escaped texts -/

theorem esc_cons (c : UInt8) (s : List UInt8) : esc (c :: s) = escByte c ++ esc s := rfl

/-- The three kinds of bytes for `esc`. -/
theorem escByte_cases (c : UInt8) :
    escByte c = [backslash, c] ∧ (c = quote ∨ c = backslash) ∨
      escByte c = [c] ∧ c ≠ quote ∧ c ≠ backslash := by
  unfold escByte
  by_cases hquote : c = 0x22
  · subst hquote
    exact .inl ⟨rfl, .inl rfl⟩
  · by_cases hslash : c = 0x5C
    · subst hslash
      exact .inl ⟨rfl, .inr rfl⟩
    · rw [if_neg hquote, if_neg hslash]
      exact .inr ⟨rfl, hquote, hslash⟩

theorem scan_escByte (c : UInt8) (text : List UInt8) :
    scan false (escByte c ++ text) =
      if control c then none else (scan false text).map fun r => (escByte c ++ r.1, r.2) := by
  rcases escByte_cases c with ⟨hesc, hc⟩ | ⟨hesc, hquote, hslash⟩
  · have hcontrol : control c = false := by
      rcases hc with rfl | rfl <;> rfl
    have hfirst : scan false (backslash :: c :: text) =
        (scan true (c :: text)).map fun r => (backslash :: r.1, r.2) := rfl
    have hsecond : scan true (c :: text) = (scan false text).map fun r => (c :: r.1, r.2) := by
      rw [scan_cons hcontrol fun _ => rfl]
      simp
    rw [hesc, hcontrol, if_neg Bool.false_ne_true]
    refine hfirst.trans ?_
    rw [hsecond, Option.map_map]
    rfl
  · rw [hesc]
    cases hcontrol : control c with
    | true => exact scan_control hcontrol false text
    | false =>
      rw [List.singleton_append, scan_cons hcontrol fun h => absurd h hquote,
        decide_eq_false hslash]
      rfl

theorem scan_esc (s rest : List UInt8) :
    scan false (esc s ++ quote :: rest) = if s.any control then none else some (esc s, rest) := by
  induction s with
  | nil => rfl
  | cons c s ih =>
    rw [esc_cons, List.append_assoc, scan_escByte, ih, List.any_cons]
    cases control c <;> cases s.any control <;> rfl

theorem unescape_escByte (c : UInt8) (n : Nat) (text : List UInt8) :
    unescape (n + 1) (escByte c ++ text) = (unescape n text).map ([c] ++ ·) := by
  rcases escByte_cases c with ⟨hesc, hc⟩ | ⟨hesc, hquote, hslash⟩
  · have hchar : character (backslash :: c :: text) = some ([c], text) := by
      rcases hc with rfl | rfl <;> rfl
    rw [hesc]
    exact congrArg (Option.bind · fun r => (unescape n r.2).map (r.1 ++ ·)) hchar
  · have hchar : character (c :: text) = some ([c], text) := character_of_ne hslash text
    rw [hesc]
    exact congrArg (Option.bind · fun r => (unescape n r.2).map (r.1 ++ ·)) hchar

variable {n k : Nat} {ms : List Member}

theorem unescape_esc {s : List UInt8} (h : (esc s).length ≤ n) :
    unescape n (esc s) = some s := by
  induction s generalizing n with
  | nil => cases n <;> rfl
  | cons c s ih =>
    have hpos : 1 ≤ (escByte c).length := by
      rcases escByte_cases c with ⟨hesc, -⟩ | ⟨hesc, -⟩ <;> rw [hesc] <;> simp
    rw [esc_cons, List.length_append] at h
    obtain ⟨n, rfl⟩ : ∃ m, n = m + 1 := ⟨n - 1, by omega⟩
    rw [esc_cons, unescape_escByte, ih (by omega)]
    rfl

/-- **An escaped text is read back**, unless it has a control byte. -/
theorem string_esc (s rest : List UInt8) :
    string (quote :: (esc s ++ quote :: rest)) =
      if s.any control then none else some (s, rest) := by
  cases h : s.any control with
  | true =>
    have hscan := scan_esc s rest
    rw [h, if_pos rfl] at hscan
    rw [string, bind_of_some (expect_cons _ _), bind_of_none hscan]
    rfl
  | false =>
    have hscan := scan_esc s rest
    rw [h, if_neg Bool.false_ne_true] at hscan
    exact string_of_scan hscan (unescape_esc le_rfl)

theorem cString_esc (s : List UInt8) : cString (esc s) = esc (cString s) := by
  induction s with
  | nil => rfl
  | cons c s ih =>
    by_cases hc : c = 0
    · subst hc
      rfl
    · have hzero : 0 ∉ escByte c := by
        rcases escByte_cases c with ⟨hesc, -⟩ | ⟨hesc, -⟩ <;> rw [hesc]
        · simp [Ne.symm hc, backslash]
        · simp [Ne.symm hc]
      have hcut : cString (c :: s) = c :: cString s :=
        cString_append (x := [c]) (by simp [Ne.symm hc]) s
      rw [esc_cons, cString_append hzero, ih, hcut]
      rfl

/-- Escapes are ASCII, so they do not matter for UTF-8. -/
theorem valid_append_esc (start s : List UInt8) :
    Utf8.Valid (start ++ esc s) ↔ Utf8.Valid (start ++ s) := by
  induction s generalizing start with
  | nil => exact Iff.rfl
  | cons c s ih =>
    rw [esc_cons]
    rcases escByte_cases c with ⟨hesc, hc⟩ | ⟨hesc, -⟩
    · have hascii : c < 128 := by
        rcases hc with rfl | rfl <;> decide
      have hrest : Utf8.Valid (esc s) ↔ Utf8.Valid s := ih []
      have hchar : Utf8.Valid ([] ++ c :: esc s) ↔ Utf8.Valid [] ∧ Utf8.Valid (esc s) :=
        Utf8.valid_append_cons_iff hascii
      rw [hesc, List.cons_append, List.singleton_append, Utf8.valid_append_cons_iff (by decide),
        Utf8.valid_append_cons_iff hascii, ← hrest]
      simpa [Utf8.valid_nil] using fun _ => hchar
    · rw [hesc, List.singleton_append, List.append_cons, ih, ← List.append_cons]

/-! ## The parts of a line -/

theorem digit_padded {c : UInt8} (h : c ∈ padded k n) : digit c = true := by
  induction k generalizing n with
  | zero => cases h
  | succ k ih =>
    rcases List.mem_append.mp h with h | h
    · exact ih h
    · rw [List.mem_singleton.mp h]
      have hlt : n % 10 < 10 := Nat.mod_lt _ (by decide)
      generalize n % 10 = d at hlt
      interval_cases d <;> rfl

theorem padded_ne_nil (k n : Nat) : padded (k + 1) n ≠ [] := by
  simp [padded]

theorem decimal_digits {c : UInt8} (h : c ∈ decimal n) : digit c = true := by
  rw [decimal_natCast] at h
  exact digit_of_mem_digitsOf h

theorem mem_timeParts {P : List UInt8 → Prop} (hdigits : ∀ l, (∀ c ∈ l, digit c = true) → P l)
    (hdash : P (ascii "-")) (hcolon : P (ascii ":")) (hT : P (ascii "T")) (hZ : P (ascii "Z"))
    (t : Tm) : ∀ l ∈ timeParts t, P l := by
  have hpadded : ∀ n, P (padded 2 n) := fun _ => hdigits _ fun _ => digit_padded
  simp only [timeParts, List.forall_mem_cons]
  exact ⟨hdigits _ fun _ => decimal_digits, hdash, hpadded _, hdash, hpadded _, hT, hpadded _,
    hcolon, hpadded _, hcolon, hpadded _, hZ, fun _ h => by cases h⟩

/-- A time has no bytes that need an escape. -/
theorem plain_strftime (t : Tm) : Plain (strftime t) := by
  intro c hc
  obtain ⟨l, hl, hc⟩ := List.mem_flatten.mp hc
  exact mem_timeParts (fun _ => plain_of_digits) (plain_of_all rfl) (plain_of_all rfl)
    (plain_of_all rfl) (plain_of_all rfl) t l hl c hc

theorem printable_strftime (t : Tm) : Printable (strftime t) := by
  intro c hc
  obtain ⟨l, hl, hc⟩ := List.mem_flatten.mp hc
  exact mem_timeParts (fun _ => printable_of_digits) (printable_of_all rfl) (printable_of_all rfl)
    (printable_of_all rfl) (printable_of_all rfl) t l hl c hc

/-- A finite float is printed as a number. -/
def floatNumeral (x : F32) : Numeral where
  minus := signBit x
  int := digitsOf (tenThousandths x / 10000)
  frac := padded 4 (tenThousandths x)
  int_digits _ := digit_of_mem_digitsOf
  frac_digits _ := digit_padded
  int_ne := digitsOf_ne_nil _
  no_zeros := no_zeros_digitsOf _

theorem fixed4_eq {x : F32} (h : isFinite x = true) : fixed4 x = (floatNumeral x).print := by
  have hpoint : (floatNumeral x).point = ascii "." ++ padded 4 (tenThousandths x) :=
    if_neg (padded_ne_nil 3 _)
  rw [fixed4, Numeral.print, hpoint, if_pos h]
  dsimp only
  rw [decimal_natCast]
  rfl

variable {ts : Tm} {s : PlayerSaveSnapshot}

/-- The numbers between the name and the error. -/
def printedNumbers (s : PlayerSaveSnapshot) (n : Nat) : List (Printed (value (n + 1))) :=
  [.number (plain_of_all (l := ascii "x") rfl) (floatNumeral s.posX) n,
    .number (plain_of_all (l := ascii "y") rfl) (floatNumeral s.posY) n,
    .number (plain_of_all (l := ascii "z") rfl) (floatNumeral s.posZ) n,
    .int (plain_of_all (l := ascii "map_id") rfl) s.mapId.toInt n,
    .int (plain_of_all (l := ascii "level") rfl) s.level.toInt n,
    .int (plain_of_all (l := ascii "exp") rfl) s.exp.toInt n,
    .int (plain_of_all (l := ascii "hp") rfl) s.hp.toInt n,
    .int (plain_of_all (l := ascii "attempts") rfl) s.attempts.toInt n]

/-- The end of the line, with the error. -/
def errorText (error : List UInt8) : List UInt8 :=
  member (ascii "error") (quote :: (esc error ++ quote :: [endObject]))

/-- The member `player_id`. -/
def printedId (s : PlayerSaveSnapshot) (n : Nat) : Printed (value (n + 1)) :=
  .int (plain_of_all (l := ascii "player_id") rfl) s.playerId.toInt n

/-- The line after the operation. -/
def afterOperation (s : PlayerSaveSnapshot) (n : Nat) : List UInt8 :=
  member (printedId s n).key ((printedId s n).text ++ comma ::
    member (ascii "name") (quote :: (esc (cString s.playerName) ++ quote :: comma ::
      printMembers (printedNumbers s n) (errorText (cString s.errorMsg)))))

/-- The positions of the snapshot are finite. -/
structure FinitePosition (s : PlayerSaveSnapshot) : Prop where
  x : isFinite s.posX = true
  y : isFinite s.posY = true
  z : isFinite s.posZ = true

/-- The literals of the format, taken apart. -/
theorem format_literals :
    ascii "\x7b\"ts\":\"" = beginObject :: quote :: (ascii "ts" ++ [quote, colon, quote]) ∧
    ascii "\",\"op\":\"" = quote :: comma :: quote :: (ascii "op" ++ [quote, colon, quote]) ∧
    ascii "\",\"player_id\":" = quote :: comma :: quote :: (ascii "player_id" ++ [quote, colon]) ∧
    ascii ",\"name\":\"" = comma :: quote :: (ascii "name" ++ [quote, colon, quote]) ∧
    ascii "\"," = [quote, comma] ∧ ascii "," = [comma] ∧
    ascii "\"x\":" = quote :: (ascii "x" ++ [quote, colon]) ∧
    ascii ",\"y\":" = comma :: quote :: (ascii "y" ++ [quote, colon]) ∧
    ascii ",\"z\":" = comma :: quote :: (ascii "z" ++ [quote, colon]) ∧
    ascii ",\"map_id\":" = comma :: quote :: (ascii "map_id" ++ [quote, colon]) ∧
    ascii "\"level\":" = quote :: (ascii "level" ++ [quote, colon]) ∧
    ascii ",\"exp\":" = comma :: quote :: (ascii "exp" ++ [quote, colon]) ∧
    ascii ",\"hp\":" = comma :: quote :: (ascii "hp" ++ [quote, colon]) ∧
    ascii ",\"attempts\":" = comma :: quote :: (ascii "attempts" ++ [quote, colon]) ∧
    ascii ",\"error\":\"" = comma :: quote :: (ascii "error" ++ [quote, colon, quote]) ∧
    ascii "\"\x7d" = [quote, endObject] := by
  refine ⟨?_, ?_, ?_, ?_, ?_, ?_, ?_, ?_, ?_, ?_, ?_, ?_, ?_, ?_, ?_, ?_⟩ <;> rfl

theorem format_eq (ts : Tm) (h : FinitePosition s) (n : Nat) :
    format ts s = beginObject :: member (ascii "ts") (quote :: (strftime ts ++ quote :: comma ::
      member (ascii "op") (quote :: (cString s.operation ++ quote :: comma ::
        afterOperation s n)))) := by
  unfold format
  simp only [fixed4_eq h.x, fixed4_eq h.y, fixed4_eq h.z, cString_esc, decimal_eq,
    format_literals, List.append_assoc, List.cons_append, List.nil_append, afterOperation,
    printMembers, printedNumbers, printedId, errorText, Printed.number, Printed.int, member,
    List.foldr_cons, List.foldr_nil]

/-! ## Reading a line -/

/-- What is read of the numbers between the name and the error. -/
def numberMembers (s : PlayerSaveSnapshot) : List Member :=
  [(ascii "x", .number (floatNumeral s.posX).val), (ascii "y", .number (floatNumeral s.posY).val),
    (ascii "z", .number (floatNumeral s.posZ).val), (ascii "map_id", .number s.mapId.toInt),
    (ascii "level", .number s.level.toInt), (ascii "exp", .number s.exp.toInt),
    (ascii "hp", .number s.hp.toInt), (ascii "attempts", .number s.attempts.toInt)]

/-- What is read after the operation. -/
def tailMembers (s : PlayerSaveSnapshot) (name error : List UInt8) : List Member :=
  (ascii "player_id", .number s.playerId.toInt) :: (ascii "name", .string name) ::
    (numberMembers s ++ [(ascii "error", .string error)])

theorem members_error (n l : Nat) (error : List UInt8) :
    members (value (n + 1)) (l + 1) (errorText error) =
      if error.any control then none else some ([(ascii "error", .string error)], []) := by
  have hvalue : value (n + 1) (quote :: (esc error ++ quote :: [endObject])) =
      if error.any control then none else some (.string error, [endObject]) := by
    rw [value_string, string_esc]
    cases error.any control <;> rfl
  cases h : error.any control with
  | true =>
    rw [h, if_pos rfl] at hvalue
    exact members_none (plain_of_all rfl) hvalue l
  | false =>
    rw [h, if_neg Bool.false_ne_true] at hvalue
    exact members_member (plain_of_all rfl) hvalue rfl l

theorem members_numbers (n l : Nat) (rest : List UInt8) :
    members (value (n + 1)) (l + 8) (printMembers (printedNumbers s n) rest) =
      (members (value (n + 1)) l rest).map fun r => (numberMembers s ++ r.1, r.2) := by
  rw [Nat.add_comm l 8]
  exact members_print (printedNumbers s n) l rest

/-- **The line after the operation** is read unless the name or the error has a control byte. -/
theorem members_afterOperation (n l : Nat) :
    members (value (n + 1)) (l + 11) (afterOperation s n) =
      if (cString s.playerName).any control || (cString s.errorMsg).any control then none
      else some (tailMembers s (cString s.playerName) (cString s.errorMsg), []) := by
  generalize hname : cString s.playerName = name
  generalize herror : cString s.errorMsg = error
  have hvalue : value (n + 1) (quote :: (esc name ++ quote :: comma ::
      printMembers (printedNumbers s n) (errorText error))) =
      if name.any control then none
      else some (.string name, comma :: printMembers (printedNumbers s n) (errorText error)) := by
    rw [value_string, string_esc]
    cases name.any control <;> rfl
  rw [afterOperation, hname, herror]
  refine (members_comma (printedId s n) (l + 10) _).trans ?_
  cases h : name.any control with
  | true =>
    rw [h, if_pos rfl] at hvalue
    rw [members_none (plain_of_all rfl) hvalue (l + 9)]
    rfl
  | false =>
    rw [h, if_neg Bool.false_ne_true] at hvalue
    rw [members_member (plain_of_all rfl) hvalue rfl (l + 9), if_pos rfl,
      members_numbers n (l + 1), members_error n l]
    cases error.any control <;> rfl

/-- The line is read up to its operation. -/
theorem value_format (ts : Tm) (h : FinitePosition s) (k : Nat) :
    value (k + 14) (format ts s) =
      (members (value (k + 13)) (k + 12) (member (ascii "op")
        (quote :: (cString s.operation ++ quote :: comma :: afterOperation s (k + 12))))).map
        fun r => (.object ((ascii "ts", .string (strftime ts)) :: r.1), r.2) := by
  let printedTime : Printed (value (k + 13)) :=
    .string (plain_of_all (l := ascii "ts") rfl) (string_plain (plain_strftime ts)) (k + 12)
  have htime : member (ascii "ts") (quote :: (strftime ts ++ quote :: comma ::
      member (ascii "op") (quote :: (cString s.operation ++ quote :: comma ::
        afterOperation s (k + 12))))) =
      member printedTime.key (printedTime.text ++ comma :: member (ascii "op")
        (quote :: (cString s.operation ++ quote :: comma :: afterOperation s (k + 12)))) := by
    simp only [printedTime, Printed.string, List.cons_append, List.append_assoc, List.nil_append]
  rw [format_eq ts h (k + 12), value_object, htime, members_comma, Option.map_map]
  rfl

/-- The rest of it, if the operation is plain. -/
theorem members_operation (h : Plain (cString s.operation)) (k : Nat) :
    members (value (k + 13)) (k + 12) (member (ascii "op")
        (quote :: (cString s.operation ++ quote :: comma :: afterOperation s (k + 12)))) =
      if (cString s.playerName).any control || (cString s.errorMsg).any control then none
      else some ((ascii "op", .string (cString s.operation)) ::
        tailMembers s (cString s.playerName) (cString s.errorMsg), []) := by
  let printedOperation : Printed (value (k + 13)) :=
    .string (plain_of_all (l := ascii "op") rfl) (string_plain h) (k + 12)
  have hoperation : member (ascii "op")
      (quote :: (cString s.operation ++ quote :: comma :: afterOperation s (k + 12))) =
      member printedOperation.key (printedOperation.text ++ comma ::
        afterOperation s (k + 12)) := by
    simp only [printedOperation, Printed.string, List.cons_append, List.append_assoc,
      List.nil_append]
  rw [hoperation, members_comma, members_afterOperation]
  cases (cString s.playerName).any control || (cString s.errorMsg).any control <;> rfl

/-! ## Texts in a line -/

/-- The line up to the operation. -/
def lineStart (ts : Tm) : List UInt8 :=
  ascii "\x7b\"ts\":\"" ++ (strftime ts ++ ascii "\",\"op\":")

/-- The line from the operation up to the name. -/
def lineId (s : PlayerSaveSnapshot) : List UInt8 :=
  ascii ",\"player_id\":" ++ (decimal s.playerId.toInt ++ ascii ",\"name\":")

/-- The numbers after the name. -/
def lineNumbers (s : PlayerSaveSnapshot) : List UInt8 :=
  ascii ",\"x\":" ++ (fixed4 s.posX ++ (ascii ",\"y\":" ++ (fixed4 s.posY ++ (ascii ",\"z\":"
    ++ (fixed4 s.posZ ++ (ascii ",\"map_id\":" ++ (decimal s.mapId.toInt ++ (ascii ",\"level\":"
    ++ (decimal s.level.toInt ++ (ascii ",\"exp\":" ++ (decimal s.exp.toInt ++ (ascii ",\"hp\":"
    ++ (decimal s.hp.toInt ++ (ascii ",\"attempts\":" ++ (decimal s.attempts.toInt
    ++ ascii ",\"error\":")))))))))))))))

theorem line_literals :
    ascii "\",\"op\":" = quote :: comma :: quote :: (ascii "op" ++ [quote, colon]) ∧
    ascii ",\"player_id\":" = comma :: quote :: (ascii "player_id" ++ [quote, colon]) ∧
    ascii ",\"name\":" = comma :: quote :: (ascii "name" ++ [quote, colon]) ∧
    ascii ",\"x\":" = comma :: quote :: (ascii "x" ++ [quote, colon]) ∧
    ascii ",\"level\":" = comma :: quote :: (ascii "level" ++ [quote, colon]) ∧
    ascii ",\"error\":" = comma :: quote :: (ascii "error" ++ [quote, colon]) := by
  refine ⟨?_, ?_, ?_, ?_, ?_, ?_⟩ <;> rfl

/-- The texts of the snapshot, and what is between them. -/
theorem format_split (ts : Tm) (s : PlayerSaveSnapshot) :
    format ts s = lineStart ts ++ quote :: (cString s.operation ++ quote :: (lineId s ++
      quote :: (esc (cString s.playerName) ++ quote :: (lineNumbers s ++
        quote :: (esc (cString s.errorMsg) ++ quote :: [endObject]))))) := by
  unfold format
  simp only [cString_esc, lineStart, lineId, lineNumbers, format_literals, line_literals,
    List.append_assoc, List.cons_append, List.nil_append]

theorem printable_lineStart (ts : Tm) : Printable (lineStart ts) :=
  (printable_of_all rfl).append ((printable_strftime ts).append (printable_of_all rfl))

theorem printable_lineId (s : PlayerSaveSnapshot) : Printable (lineId s) :=
  (printable_of_all rfl).append ((printable_decimal _).append (printable_of_all rfl))

theorem printable_fixed4 {x : F32} (h : isFinite x = true) : Printable (fixed4 x) := by
  rw [fixed4_eq h]
  exact Numeral.printable _

theorem printable_lineNumbers (h : FinitePosition s) : Printable (lineNumbers s) :=
  (printable_of_all rfl).append <| (printable_fixed4 h.x).append <|
  (printable_of_all rfl).append <| (printable_fixed4 h.y).append <|
  (printable_of_all rfl).append <| (printable_fixed4 h.z).append <|
  (printable_of_all rfl).append <| (printable_decimal _).append <|
  (printable_of_all rfl).append <| (printable_decimal _).append <|
  (printable_of_all rfl).append <| (printable_decimal _).append <|
  (printable_of_all rfl).append <| (printable_decimal _).append <|
  (printable_of_all rfl).append <| (printable_decimal _).append (printable_of_all rfl)

/-- The line is UTF-8 if the texts in it are. -/
theorem valid_format_iff (ts : Tm) (h : FinitePosition s) :
    Utf8.Valid (format ts s) ↔ Utf8.Valid (cString s.operation) ∧
      Utf8.Valid (cString s.playerName) ∧ Utf8.Valid (cString s.errorMsg) := by
  have hesc : ∀ text, Utf8.Valid (esc text) ↔ Utf8.Valid text := valid_append_esc []
  have hend : Utf8.Valid [endObject] := Utf8.valid_singleton (by decide)
  rw [format_split]
  simp only [Utf8.valid_append_cons_iff (show quote < 128 by decide), hesc,
    (printable_lineStart ts).valid, (printable_lineId s).valid, (printable_lineNumbers h).valid,
    hend, true_and, and_true]

theorem any_control_esc (text : List UInt8) : (esc text).any control = text.any control := by
  induction text with
  | nil => rfl
  | cons c text ih =>
    rw [esc_cons, List.any_append, List.any_cons, ih]
    rcases escByte_cases c with ⟨hesc, hc⟩ | ⟨hesc, -⟩
    · rw [hesc]
      rcases hc with rfl | rfl <;> rfl
    · rw [hesc, List.any_cons, List.any_nil, Bool.or_false]

/-- Control bytes in the line come from its texts. -/
theorem any_control_format (ts : Tm) (h : FinitePosition s) :
    (format ts s).any control = ((cString s.operation).any control ||
      ((cString s.playerName).any control || (cString s.errorMsg).any control)) := by
  have hquote : control quote = false := rfl
  have hend : [endObject].any control = false := rfl
  rw [format_split]
  simp only [List.any_append, List.any_cons, hquote, any_control_esc, hend,
    (printable_lineStart ts).any_control, (printable_lineId s).any_control,
    (printable_lineNumbers h).any_control, Bool.false_or, Bool.or_false]

/-! ## Replay -/

/-- The members from which the save can be repeated. -/
def fields (s : PlayerSaveSnapshot) : List Member :=
  [(ascii "name", .string s.playerName), (ascii "error", .string s.errorMsg),
    (ascii "op", .string s.operation), (ascii "player_id", .number s.playerId.toInt),
    (ascii "map_id", .number s.mapId.toInt), (ascii "level", .number s.level.toInt),
    (ascii "exp", .number s.exp.toInt), (ascii "hp", .number s.hp.toInt),
    (ascii "attempts", .number s.attempts.toInt)]

/-- The bytes are one line, which is a JSON object that decodes to the snapshot. -/
def Replays (bytes : List UInt8) (s : PlayerSaveSnapshot) : Prop :=
  ∃ line ms, bytes = line ++ ascii "\n" ∧ (∀ b ∈ line, b ≠ 0x0A ∧ b ≠ 0x0D) ∧
    Decodes line (.object ms) ∧ (ms.map Prod.fst).Nodup ∧ fields s ⊆ ms

/-- The line fits into the buffer, and the texts can be printed. -/
structure Recordable (ts : Tm) (s : PlayerSaveSnapshot) : Prop where
  fits : (format ts s).length < lineSize
  operation : PlainText s.operation
  name : CleanText s.playerName
  error : CleanText s.errorMsg

/-- What is read of the whole line. -/
def lineMembers (ts : Tm) (s : PlayerSaveSnapshot) (name error : List UInt8) : List Member :=
  (ascii "ts", .string (strftime ts)) :: (ascii "op", .string s.operation) ::
    tailMembers s name error

theorem nodup_lineMembers (ts : Tm) (s : PlayerSaveSnapshot) (name error : List UInt8) :
    ((lineMembers ts s name error).map Prod.fst).Nodup :=
  show [ascii "ts", ascii "op", ascii "player_id", ascii "name", ascii "x", ascii "y", ascii "z",
    ascii "map_id", ascii "level", ascii "exp", ascii "hp", ascii "attempts", ascii "error"].Nodup
  by decide

theorem length_format (ts : Tm) (s : PlayerSaveSnapshot) : 13 ≤ (format ts s).length := by
  have hstart : 13 ≤ (lineStart ts).length := by
    simp only [lineStart, List.length_append]
    have hfirst : (ascii "\x7b\"ts\":\"").length = 7 := rfl
    have hlast : (ascii "\",\"op\":").length = 7 := rfl
    omega
  rw [format_split, List.length_append]
  omega

/-- Such a snapshot is read back as it was. -/
theorem replays_of_recordable (hfinite : FinitePosition s) (h : Recordable ts s) :
    Replays (line ts s ++ ascii "\n") s := by
  have hline : line ts s = format ts s := snprintf_eq h.fits
  have hop := cString_of_not_mem h.operation.zero_not_mem
  have hname := cString_of_not_mem h.name.zero_not_mem
  have herror := cString_of_not_mem h.error.zero_not_mem
  have hparse : parse (format ts s) =
      some (.object (lineMembers ts s s.playerName s.errorMsg)) := by
    obtain ⟨k, hk⟩ := Nat.exists_eq_add_of_le' (length_format ts s)
    rw [parse, hk, value_format ts hfinite,
      members_operation (by rw [hop]; exact h.operation.plain), hop, hname, herror, h.name.clean,
      h.error.clean]
    rfl
  have hcontrol : (format ts s).any control = false := by
    rw [any_control_format ts hfinite, hop, hname, herror, h.operation.clean.clean, h.name.clean,
      h.error.clean]
    rfl
  have hvalid : Utf8.Valid (format ts s) := by
    rw [valid_format_iff ts hfinite, hop, hname, herror]
    exact ⟨h.operation.valid, h.name.valid, h.error.valid⟩
  refine ⟨format ts s, _, by rw [hline], ?_, ⟨hvalid, hparse⟩, ?_, ?_⟩
  · intro b hb
    have hb' := List.any_eq_false.mp hcontrol b hb
    constructor <;> rintro rfl <;> exact hb' rfl
  · exact nodup_lineMembers ts s s.playerName s.errorMsg
  · simp [fields, lineMembers, tailMembers, numberMembers]

/-- If an object is read from the line, it is also read from the text that was to be printed, with
what was cut off as its rest. -/
theorem value_of_parse_line (h : parse (line ts s) = some (.object ms)) :
    ∃ k rest, value (k + 14) (format ts s)
      = some (.object ms, rest ++ (format ts s).drop (lineSize - 1)) := by
  rw [parse, Option.bind_eq_some_iff] at h
  obtain ⟨⟨v, rest⟩, hvalue, hobject⟩ := h
  obtain rfl : v = .object ms := by
    split_ifs at hobject
    cases hobject
    rfl
  obtain ⟨k, hk⟩ : ∃ k, (line ts s).length = k + 13 := by
    refine Nat.exists_eq_add_of_le' ?_
    rw [line, snprintf, List.length_take]
    exact le_min (by decide) (length_format ts s)
  have hwhole := value_object_append hvalue ((format ts s).drop (lineSize - 1))
  rw [hk, line, snprintf, List.take_append_drop] at hwhole
  exact ⟨k, rest, hwhole⟩

/-- What an object that is read from the text says of the operation. -/
theorem operation_of_value (hfinite : FinitePosition s) {rest : List UInt8}
    (h : value (k + 14) (format ts s) = some (.object ms, rest)) :
    ∃ op ms', ms = (ascii "ts", .string (strftime ts)) :: (ascii "op", .string op) :: ms' ∧
      (op.length < (cString s.operation).length ∨
        op = cString s.operation ∧ Plain (cString s.operation)) := by
  rw [value_format ts hfinite, Option.map_eq_some_iff] at h
  obtain ⟨⟨ms', rest'⟩, hmembers, heq⟩ := h
  cases heq
  obtain ⟨op, ms'', rfl, hop⟩ := members_raw (plain_of_all (l := ascii "op") rfl)
    (show whitespace 0x70 = false ∧ (0x70 : UInt8) ≠ comma ∧ (0x70 : UInt8) ≠ endObject by decide)
    hmembers
  exact ⟨op, ms'', rfl, hop⟩

/-- If the operation is plain, all of the text is read. -/
theorem members_of_value (hfinite : FinitePosition s) (hplain : Plain (cString s.operation))
    (hop : cString s.operation = s.operation) {rest : List UInt8}
    (h : value (k + 14) (format ts s) = some (.object ms, rest)) :
    ms = lineMembers ts s (cString s.playerName) (cString s.errorMsg) ∧ rest = [] ∧
      (cString s.playerName).any control = false ∧ (cString s.errorMsg).any control = false := by
  rw [value_format ts hfinite, members_operation hplain] at h
  split_ifs at h with hcontrol
  · cases h
  · rw [Bool.not_eq_true, Bool.or_eq_false_iff] at hcontrol
    cases h
    rw [hop]
    exact ⟨rfl, rfl, hcontrol⟩

/-- What can be replayed has no text that the format breaks. -/
theorem recordable_of_replays (hfinite : FinitePosition s)
    (h : Replays (line ts s ++ ascii "\n") s) : Recordable ts s := by
  obtain ⟨_, ms, hbytes, -, ⟨hvalid, hparse⟩, hnodup, hfields⟩ := h
  obtain rfl := List.append_cancel_right hbytes
  obtain ⟨k, rest, hvalue⟩ := value_of_parse_line hparse
  have hstring : ∀ {key a b}, (key, .string a) ∈ fields s → (key, .string b) ∈ ms → a = b :=
    fun ha hb => Value.string.inj (value_unique hnodup (hfields ha) hb)
  -- the operation is read as itself, so `%s` has not cut it and it is plain
  obtain ⟨op, ms', hms, hop⟩ := operation_of_value hfinite hvalue
  obtain rfl : s.operation = op :=
    hstring (show (ascii "op", .string s.operation) ∈ fields s by simp [fields]) (by simp [hms])
  obtain ⟨hcut, hplain⟩ := hop.resolve_left (Nat.not_lt.mpr (length_cString s.operation))
  obtain ⟨rfl, hrest, hcleanName, hcleanError⟩ :=
    members_of_value hfinite hplain hcut.symm hvalue
  have hname : s.playerName = cString s.playerName :=
    hstring (show (ascii "name", .string s.playerName) ∈ fields s by simp [fields])
      (by simp [lineMembers, tailMembers])
  have herror : s.errorMsg = cString s.errorMsg :=
    hstring (show (ascii "error", .string s.errorMsg) ∈ fields s by simp [fields])
      (by simp [lineMembers, tailMembers])
  -- nothing was cut off
  have hfits : (format ts s).length ≤ lineSize - 1 :=
    List.drop_eq_nil_iff.mp (List.append_eq_nil_iff.mp hrest).2
  rw [line, snprintf, List.take_of_length_le hfits, valid_format_iff ts hfinite] at hvalid
  rw [← hcut] at hplain hvalid
  rw [← hname] at hcleanName hvalid
  rw [← herror] at hcleanError hvalid
  exact ⟨Nat.lt_of_le_pred (by decide) hfits, ⟨hplain, hvalid.1⟩, ⟨hcleanName, hvalid.2.1⟩,
    ⟨hcleanError, hvalid.2.2⟩⟩

/-- **What `record` prints can be replayed** exactly if the line fits into the buffer and the texts
of the snapshot can be printed. -/
theorem record_replays_iff (ts : Tm) (s : PlayerSaveSnapshot) (hfinite : FinitePosition s) :
    ∃ bytes, (∀ sink : FailureSink, sink.record ts none s = sink.append bytes) ∧
      (∀ (sink : FailureSink) (n : Nat),
        (sink.record ts (some n) s).stderr = sink.stderr ++ bytes) ∧
      (Replays bytes s ↔ Recordable ts s) := by
  refine ⟨line ts s ++ ascii "\n", ?_, ?_, recordable_of_replays hfinite,
    replays_of_recordable hfinite⟩
  · rintro ⟨_ | contents, stderr⟩ <;> rfl
  · rintro ⟨_ | contents, stderr⟩ n <;> rfl

/-- A time to write lines with. -/
def epoch : Tm := ⟨1970, 1, 1, 0, 0, 0⟩

/-- A player whose position could not be saved. -/
def failedSave (playerName errorMsg : List UInt8) : PlayerSaveSnapshot where
  playerId := 1
  playerName := playerName
  operation := ascii "save_position"
  posX := ⟨0⟩
  posY := ⟨0⟩
  posZ := ⟨0⟩
  mapId := 1
  level := 1
  exp := 0
  hp := 100
  attempts := 3
  errorMsg := errorMsg

theorem finitePosition_failedSave (playerName errorMsg : List UInt8) :
    FinitePosition (failedSave playerName errorMsg) :=
  have hzero : isFinite ⟨0⟩ = true := by decide
  ⟨hzero, hzero, hzero⟩

theorem record_replays_kim :
    Recordable epoch (failedSave (ascii "kim") (ascii "timeout")) ∧
      ∃ bytes, (∀ sink : FailureSink,
          sink.record epoch none (failedSave (ascii "kim") (ascii "timeout")) = sink.append bytes) ∧
        (∀ (sink : FailureSink) (n : Nat),
          (sink.record epoch (some n) (failedSave (ascii "kim") (ascii "timeout"))).stderr =
            sink.stderr ++ bytes) ∧
        (Replays bytes (failedSave (ascii "kim") (ascii "timeout")) ↔
          Recordable epoch (failedSave (ascii "kim") (ascii "timeout"))) :=
  ⟨⟨by decide +kernel, ⟨plain_of_all rfl, (printable_of_all rfl).valid⟩,
      ⟨rfl, (printable_of_all rfl).valid⟩, ⟨rfl, (printable_of_all rfl).valid⟩⟩,
    record_replays_iff epoch _ (finitePosition_failedSave _ _)⟩

/-- A name with a line break is printed as two lines, neither of which is JSON, and of a long error
the end of the line is cut off. -/
theorem record_broken_line :
    let printed := fun s => (({ file := some [] } : FailureSink).record epoch none s).file.getD []
    let broken := failedSave (ascii "a\nb") (ascii "timeout")
    let long := failedSave (ascii "kim") (List.replicate 1000 0x78)
    printed broken =
        ascii "\x7b\"ts\":\"1970-01-01T00:00:00Z\",\"op\":\"save_position\",\"player_id\":1,"
          ++ ascii "\"name\":\"a" ++ ascii "\n"
          ++ ascii "b\",\"x\":0.0000,\"y\":0.0000,\"z\":0.0000,\"map_id\":1,\"level\":1,\"exp\":0,"
          ++ ascii "\"hp\":100,\"attempts\":3,\"error\":\"timeout\"\x7d" ++ ascii "\n" ∧
      ¬ Replays (printed broken) broken ∧
      (printed long).length = 1024 ∧ ¬ Replays (printed long) long := by
  intro printed broken long
  have hprinted : ∀ s, printed s = line epoch s ++ ascii "\n" := fun s =>
    List.nil_append (line epoch s ++ ascii "\n")
  refine ⟨by decide +kernel, fun h => ?_, by decide +kernel, fun h => ?_⟩
  · rw [hprinted] at h
    have hclean := (recordable_of_replays (finitePosition_failedSave _ _) h).name.clean
    exact absurd hclean (by decide)
  · rw [hprinted] at h
    have hfits := (recordable_of_replays (finitePosition_failedSave _ _) h).fits
    exact absurd hfits (by decide +kernel)

end FailureSink

end EcsAsioServer.Db
