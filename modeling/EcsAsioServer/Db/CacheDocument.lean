import EcsAsioServer.Db.Texts
import EcsAsioServer.Protocol.Messages

/-!
# The cached document of a player (`server/game/handlers/player_handlers.cpp`)

When a login has loaded its row, `handle_login` puts a JSON document together and stores it in
Redis. The name of the player stands in it as the client has sent it: nothing is escaped, and
`redisCommand` stops at the first zero byte. So the document says what it should exactly for
names that are plain UTF-8 text (`cache_document_iff`); other names can make it the document
of another row.
-/

namespace EcsAsioServer.Db

open Protocol Json

/-! ## The document -/

/-- The document up to the name. -/
def documentStart (record : PlayerRecord) : List UInt8 :=
  ascii "\x7b\"id\":" ++ (decimal record.id.toInt ++ ascii ",\"name\":\"")

/-- The document after the name. -/
def documentEnd (record : PlayerRecord) : List UInt8 :=
  ascii "\",\"map_id\":" ++ (decimal record.mapId.toInt ++ (ascii ",\"hp\":"
    ++ (decimal record.hp.toInt ++ ascii "\x7d")))

theorem playerJson_eq (record : PlayerRecord) (name : List UInt8) :
    playerJson record name = documentStart record ++ (name ++ documentEnd record) := by
  simp only [playerJson, documentStart, documentEnd, List.append_assoc]
  rfl

theorem documentStart_append (record : PlayerRecord) (text : List UInt8) :
    documentStart record ++ text = beginObject :: member (ascii "id")
      (decimal record.id.toInt ++ comma :: member (ascii "name") (quote :: text)) := by
  simp only [documentStart, List.append_assoc]
  rfl

theorem printable_documentStart (record : PlayerRecord) : Printable (documentStart record) :=
  (printable_of_all rfl).append ((printable_decimal _).append (printable_of_all rfl))

theorem printable_documentEnd (record : PlayerRecord) : Printable (documentEnd record) :=
  (printable_of_all rfl).append ((printable_decimal _).append
    ((printable_of_all rfl).append ((printable_decimal _).append (printable_of_all rfl))))

/-- What `set_player_cache` stores: a zero byte in the name cuts the document off. -/
theorem stored_eq (record : PlayerRecord) (name : List UInt8) :
    cString (playerJson record name) = documentStart record ++
      if 0 ∈ name then cString name else name ++ documentEnd record := by
  rw [playerJson_eq, cString_append (printable_documentStart record).zero_not_mem]
  split
  · next h => rw [cString_append_of_mem h]
  · next h =>
    rw [cString_append h, cString_of_not_mem (printable_documentEnd record).zero_not_mem]

/-! ## Reading it back -/

/-- The names in the document. -/
def idKey : List UInt8 := ascii "id"
/-- `name`. -/
def nameKey : List UInt8 := ascii "name"
/-- `map_id`. -/
def mapIdKey : List UInt8 := ascii "map_id"
/-- `hp`. -/
def hpKey : List UInt8 := ascii "hp"

/-- The decoder reads the id and goes on with the name. -/
theorem parse_start (record : PlayerRecord) (text : List UInt8) :
    ∃ n l, parse (documentStart record ++ text) =
      (members (value (n + 1)) (l + 3) (member nameKey (quote :: text))).bind fun r =>
        if r.2.all whitespace then some (.object ((idKey, .number record.id.toInt) :: r.1))
        else none := by
  rw [documentStart_append, parse_object, decimal_eq]
  generalize hn : (member (ascii "id") ((Numeral.ofInt record.id.toInt).print
    ++ comma :: member (ascii "name") (quote :: text))).length = n
  obtain ⟨l, rfl⟩ : ∃ l, n = l + 3 := ⟨n - 3, by
    rw [← hn]
    simp [member]
    omega⟩
  refine ⟨l + 3, l, ?_⟩
  have hid := members_comma (.int (plain_of_all (l := idKey) rfl) record.id.toInt (l + 3))
    (l + 3) (member nameKey (quote :: text))
  refine (congrArg (Option.bind · _) hid).trans ?_
  cases members (value (l + 3 + 1)) (l + 3) (member nameKey (quote :: text)) <;> rfl

/-- What the document should hold. -/
def documentMembers (record : PlayerRecord) (name : List UInt8) : List Member :=
  [(idKey, .number record.id.toInt), (nameKey, .string name),
    (mapIdKey, .number record.mapId.toInt), (hpKey, .number record.hp.toInt)]

variable {name : List UInt8} {record : PlayerRecord}

theorem parse_document (record : PlayerRecord) (h : Plain name) :
    parse (documentStart record ++ (name ++ documentEnd record)) =
      some (.object (documentMembers record name)) := by
  obtain ⟨n, l, hparse⟩ := parse_start record (name ++ documentEnd record)
  let printedName : Printed (value (n + 1)) :=
    .string (plain_of_all (l := nameKey) rfl) (string_plain h) n
  let printedMapId : Printed (value (n + 1)) :=
    .int (plain_of_all (l := mapIdKey) rfl) record.mapId.toInt n
  let printedHp : Printed (value (n + 1)) :=
    .int (plain_of_all (l := hpKey) rfl) record.hp.toInt n
  have htext : member nameKey (quote :: (name ++ documentEnd record)) =
      member printedName.key (printedName.text ++ comma :: member printedMapId.key
        (printedMapId.text ++ comma :: member printedHp.key (printedHp.text ++ [endObject]))) := by
    simp only [documentEnd, decimal_eq, printedName, Printed.string, List.cons_append,
      List.append_assoc]
    rfl
  rw [hparse, htext, members_comma, members_comma, members_last]
  rfl

/-- The document is a JSON object with exactly these four keys, which decode to the name and to
the values of the row. -/
def DocumentOf (doc : List UInt8) (record : PlayerRecord) (name : List UInt8) : Prop :=
  ∃ ms, Decodes doc (.object ms) ∧ (ms.map Prod.fst).Perm [idKey, nameKey, mapIdKey, hpKey] ∧
    (idKey, .number record.id.toInt) ∈ ms ∧ (nameKey, .string name) ∈ ms ∧
    (mapIdKey, .number record.mapId.toInt) ∈ ms ∧ (hpKey, .number record.hp.toInt) ∈ ms

theorem decodes_document (record : PlayerRecord) (h : PlainText name) :
    Decodes (cString (playerJson record name)) (.object (documentMembers record name)) := by
  rw [stored_eq, if_neg h.zero_not_mem]
  exact ⟨(printable_documentStart record).valid.append
    (h.valid.append (printable_documentEnd record).valid), parse_document record h.plain⟩

theorem documentOf_of_plainText (record : PlayerRecord) (h : PlainText name) :
    DocumentOf (cString (playerJson record name)) record name :=
  ⟨_, decodes_document record h, .refl _, by simp [documentMembers]⟩

theorem valid_name (h : Utf8.Valid (documentStart record ++ (name ++ documentEnd record))) :
    Utf8.Valid name := by
  have hstart : documentStart record ++ (name ++ documentEnd record) =
      (ascii "\x7b\"id\":" ++ (decimal record.id.toInt ++ ascii ",\"name\":")) ++
        quote :: (name ++ documentEnd record) := by
    simp only [documentStart, List.append_assoc]
    rfl
  rw [hstart, Utf8.valid_append_cons_iff (by decide)] at h
  exact ((Utf8.valid_append_cons_iff (b := quote) (by decide)).mp h.2).1

/-- A document can be read back only if the name needs no escape. -/
theorem plainText_of_documentOf (h : DocumentOf (cString (playerJson record name)) record name) :
    PlainText name := by
  obtain ⟨ms, ⟨hvalid, hparse⟩, hkeys, -, hname, -, -⟩ := h
  have hnodup : (ms.map Prod.fst).Nodup := hkeys.nodup_iff.mpr (by decide)
  rw [stored_eq] at hvalid hparse
  obtain ⟨n, l, hstart⟩ := parse_start record
    (if 0 ∈ name then cString name else name ++ documentEnd record)
  rw [hstart, Option.bind_eq_some_iff] at hparse
  obtain ⟨⟨ms', rest⟩, hmembers, hobject⟩ := hparse
  obtain rfl : (idKey, .number record.id.toInt) :: ms' = ms := by
    split_ifs at hobject
    cases hobject
    rfl
  by_cases hzero : 0 ∈ name
  · -- the document ends in the name, so a string in it is shorter
    rw [if_pos hzero] at hmembers
    obtain ⟨s, mid, ms'', hstring, rfl⟩ :=
      members_string (plain_of_all (l := nameKey) rfl) hmembers
    have hs := value_unique hnodup hname (List.mem_cons_of_mem _ (.head _))
    cases hs
    have hlt := string_length hstring
    have hle := length_cString name
    omega
  · rw [if_neg hzero] at hmembers hvalid
    obtain ⟨s, ms'', rfl, hplain⟩ := members_raw (plain_of_all (l := nameKey) rfl)
      (show whitespace 0x6D = false ∧ (0x6D : UInt8) ≠ comma ∧ (0x6D : UInt8) ≠ endObject by decide)
      hmembers
    have hs := value_unique hnodup hname (List.mem_cons_of_mem _ (.head _))
    cases hs
    exact ⟨(hplain.resolve_left (lt_irrefl _)).2, valid_name hvalid⟩

theorem documentOf_iff (record : PlayerRecord) (name : List UInt8) :
    DocumentOf (cString (playerJson record name)) record name ↔ PlainText name :=
  ⟨plainText_of_documentOf, documentOf_of_plainText record⟩

/-- The document decodes to the values of the row, whatever else it holds. -/
def DecodesTo (doc : List UInt8) (record : PlayerRecord) : Prop :=
  ∃ ms, Decodes doc (.object ms) ∧ (idKey, .number record.id.toInt) ∈ ms ∧
    (mapIdKey, .number record.mapId.toInt) ∈ ms ∧ (hpKey, .number record.hp.toInt) ∈ ms

/-- The rows agree in what the document says of them. -/
def SameRow (record other : PlayerRecord) : Prop :=
  record.id = other.id ∧ record.mapId = other.mapId ∧ record.hp = other.hp

theorem sameRow_of_decodesTo {other : PlayerRecord} (hname : PlainText name)
    (h : DecodesTo (cString (playerJson record name)) other) :
    SameRow record other := by
  obtain ⟨ms, hdecodes, hid, hmap, hhp⟩ := h
  have hdoc := decodes_document record hname
  obtain rfl : ms = documentMembers record name := by
    have hsame := hdecodes.2.symm.trans hdoc.2
    cases hsame
    rfl
  have hnodup : ((documentMembers record name).map Prod.fst).Nodup :=
    show [idKey, nameKey, mapIdKey, hpKey].Nodup by decide
  have hint : ∀ {key : List UInt8} {a b : ℤ}, (key, .number a) ∈ documentMembers record name →
      (key, .number b) ∈ documentMembers record name → a = b := by
    intro key a b ha hb
    have hnumber := value_unique hnodup ha hb
    rw [Value.number.injEq] at hnumber
    exact_mod_cast hnumber
  refine ⟨?_, ?_, ?_⟩
  · exact Int64.toInt_inj.mp (hint (by simp [documentMembers]) hid)
  · exact Int32.toInt_inj.mp (hint (by simp [documentMembers]) hmap)
  · exact Int32.toInt_inj.mp (hint (by simp [documentMembers]) hhp)

/-- **The cached document.** A login stores a document that is a JSON object with the four keys,
and decodes to the name and the values of the row, exactly if the name is plain UTF-8 text.
Then it does not decode to the values of any other row. -/
theorem cache_document_iff {my : MySql} {st : Storage} {redis : Redis} {record : PlayerRecord}
    {db : Database} {attempts : List LoginAttempt} (channelId : Int32) (name : List UInt8)
    (hredis : st.redis = some redis)
    (hfound : st.db.findOrCreate my name attempts = (some record, db)) :
    ∃ doc, (st.runLogin my channelId name attempts).1.redis
        = some { redis with players := redis.players.insert record.id doc } ∧
      (DocumentOf doc record name ↔ PlainText name) ∧
      (PlainText name → ∀ other, DecodesTo doc other → SameRow record other) := by
  refine ⟨cString (playerJson record name), ?_, documentOf_iff record name,
    fun hname _ => sameRow_of_decodesTo hname⟩
  rw [Storage.runLogin, hfound, hredis]
  rfl

/-- Names compare byte by byte, and columns keep what they are given. -/
def exactMySql : MySql := ⟨fun a b => a == b, id, id⟩

theorem cache_document_kim :
    ∃ doc, (({ redis := some {} } : Storage).runLogin exactMySql 7 (ascii "kim") []).1.redis
        = some { players := AList.insert 1 doc ∅ } ∧
      (DocumentOf doc { id := 1, name := ascii "kim" } (ascii "kim") ↔ PlainText (ascii "kim")) ∧
      (PlainText (ascii "kim") →
        ∀ other, DecodesTo doc other → SameRow { id := 1, name := ascii "kim" } other) :=
  cache_document_iff 7 (ascii "kim")
    (show ({ redis := some {} } : Storage).redis = some {} from rfl)
    (show ({ redis := some {} } : Storage).db.findOrCreate exactMySql (ascii "kim") [] =
      (some { id := 1, name := ascii "kim" }, ⟨[{ id := 1, name := ascii "kim" }], 2⟩)
      by decide +kernel)

/-- A name with a quotation mark and a zero byte: the request is accepted, and the login stores the
document of another row, with map 2 and 1 health point where the row has map 1 and 100. -/
theorem forged_document :
    let name := ascii "a\",\"map_id\":2,\"hp\":1\x7d" ++ [0]
    let other : PlayerRecord := { id := 1, mapId := 2, hp := 1 }
    let run := ({ redis := some {} } : Storage).runLogin exactMySql 7 name []
    LoginReq.parse (LoginReq.serialize ⟨name, []⟩) = .ok ⟨name, []⟩ [] ∧
      run.2.record = some { id := 1, name, mapId := 1, hp := 100 } ∧
      run.1.redis.bind (·.players.lookup 1) = some (cString (playerJson other (ascii "a"))) ∧
      DocumentOf (cString (playerJson other (ascii "a"))) other (ascii "a") := by
  refine ⟨?_, by decide +kernel, by decide +kernel, ?_⟩
  · exact LoginReq.parse_serialize (m := ⟨_, []⟩) (by decide) (by decide) []
  · exact documentOf_of_plainText _ ⟨plain_of_all rfl, (printable_of_all rfl).valid⟩

end EcsAsioServer.Db
