import FleetTelemetry.Http.Message
import FleetTelemetry.Http.Url
import FleetTelemetry.Proofs.Json.Reads
import FleetTelemetry.Proofs.Time.Wire

/-!
# Reading a request's query back from its full URL

`Request.fullUrl` appends the query pairs to the URL: each name and each value percent-encoded
as UTF-8, a name joined to its value by `=`, the pairs joined by `&`, the whole after `?` (after
`&` when the URL already has a query). `readQuery` reads a URL's query the way a server does: the
text after the first `?`, cut at every `&`, each piece cut at its first `=`, both halves
percent-decoded and read as UTF-8.

For a URL without a `?` of its own, reading the full URL gives back the query pairs exactly and
in order, whatever characters the names and values hold (`Request.readQuery_fullUrl`). The
encoding keeps only ASCII letters, digits and `-_.~` as they are, so no `&`, `=` or `?` of a name
or a value reaches the URL as itself, and decoding undoes the encoding byte by byte.
-/

namespace FleetTelemetry.Http

/-! ### Reading a query -/

/-- A percent-encoded text decoded: `%` and two hexadecimal digits give one byte, every other
character its UTF-8 bytes, and the bytes are read as UTF-8 (`none` when they are not UTF-8). -/
def decodeComponent (cs : List Char) : Option String :=
  String.fromUTF8? (percentDecodeBytes (String.ofList cs).toUTF8.toList).toByteArray

/-- The pieces of a URL's query: the text after the first `?`, cut at every `&`. -/
def queryPieces (url : String) : List (List Char) :=
  ((url.toList.dropWhile (· != '?')).drop 1).splitOn '&'

/-- A query piece cut at its first `=`, both halves decoded. -/
def decodePair (piece : List Char) : Option (String × String) := do
  let name ← decodeComponent (piece.takeWhile (· != '='))
  let value ← decodeComponent ((piece.dropWhile (· != '=')).drop 1)
  pure (name, value)

def readQuery (url : String) : Option (List (String × String)) :=
  (queryPieces url).mapM decodePair

example : readQuery "https://fleet.example/api?user=ops&password=p%26ss%3Dw%25rd%20%2B%C3%BC" =
    some [("user", "ops"), ("password", "p&ss=w%rd +ü")] := by
  decide +kernel

namespace Request

/-! ### Percent-encoding, one byte at a time -/

def escapeByte (b : UInt8) : List Char :=
  if isUnreserved b then [Char.ofNat b.toNat]
  else ['%', hexUpper (b.toNat / 16), hexUpper (b.toNat % 16)]

theorem percentEncode_toList (s : String) :
    (percentEncode s).toList = s.toUTF8.toList.flatMap escapeByte := by
  rw [percentEncode, String.toList_ofList]
  rfl

theorem hexUpper_read : ∀ k : Fin 16,
    ((hexUpper k).toNat < 128 ∧ hexUpper k ≠ '&' ∧ hexUpper k ≠ '=' ∧ hexUpper k ≠ '?') ∧
      Text.hexDigitValue? (Char.ofNat (hexUpper k).toUInt8.toNat) = some k := by
  decide

/-- A byte that percent-encoding keeps is an ASCII letter, a digit or one of `-_.~`: none of
`%`, `&`, `=` and `?`. -/
theorem isUnreserved_bounds {b : UInt8} (h : isUnreserved b = true) :
    b.toNat < 128 ∧ b.toNat ≠ 37 ∧ b.toNat ≠ 38 ∧ b.toNat ≠ 61 ∧ b.toNat ≠ 63 := by
  simp only [isUnreserved, Bool.or_eq_true, Bool.and_eq_true, decide_eq_true_eq, beq_iff_eq,
    UInt8.le_iff_toNat_le, UInt8.ext_iff, UInt8.toNat_ofNat] at h
  omega

theorem toNat_ofNat_ascii {n : Nat} (h : n < 128) : (Char.ofNat n).toNat = n := by
  have hv : n.isValidChar := Or.inl (by omega)
  simp [Char.ofNat, hv, Char.ofNatAux, Char.toNat]

theorem toUInt8_toNat_ascii {c : Char} (h : c.toNat < 128) : c.toUInt8.toNat = c.toNat := by
  rw [Char.toUInt8, UInt32.toNat_toUInt8]
  exact Nat.mod_eq_of_lt (by simp only [Char.toNat] at h; omega)

theorem byte_halves_lt (b : UInt8) : b.toNat / 16 < 16 ∧ b.toNat % 16 < 16 := by
  have := b.toNat_lt
  omega

theorem escapeByte_safe (b : UInt8) :
    ∀ c ∈ escapeByte b, c.toNat < 128 ∧ c ≠ '&' ∧ c ≠ '=' ∧ c ≠ '?' := by
  intro c hc
  by_cases hb : isUnreserved b = true
  · -- a kept byte is written as the character of its code
    simp only [escapeByte, hb, if_true, List.mem_singleton] at hc
    subst hc
    obtain ⟨hlt, -, h38, h61, h63⟩ := isUnreserved_bounds hb
    have hcode := toNat_ofNat_ascii hlt
    refine ⟨by omega, ?_, ?_, ?_⟩ <;> intro he <;> rw [he] at hcode <;> simp at hcode <;> omega
  · -- any other byte is written as `%` and two hex digits
    obtain ⟨hhi, hlo⟩ := byte_halves_lt b
    simp only [escapeByte, hb, Bool.false_eq_true, if_false, List.mem_cons, List.not_mem_nil,
      or_false] at hc
    rcases hc with rfl | rfl | rfl
    · decide
    · exact (hexUpper_read ⟨_, hhi⟩).1
    · exact (hexUpper_read ⟨_, hlo⟩).1

theorem percentEncode_safe (s : String) :
    ∀ c ∈ (percentEncode s).toList, c.toNat < 128 ∧ c ≠ '&' ∧ c ≠ '=' ∧ c ≠ '?' := by
  intro c hc
  rw [percentEncode_toList] at hc
  obtain ⟨b, -, hcb⟩ := List.mem_flatMap.mp hc
  exact escapeByte_safe b c hcb

/-! ### Percent-decoding undoes percent-encoding -/

theorem percentDecodeBytes_plain {b : UInt8} (hb : b ≠ 37) (rest : List UInt8) :
    percentDecodeBytes (b :: rest) = b :: percentDecodeBytes rest := by
  rcases rest with _ | ⟨x, _ | ⟨y, tail⟩⟩
  · rfl
  · rfl
  · show (if b == 37 then _ else b :: percentDecodeBytes (x :: y :: tail)) = _
    rw [if_neg (by simpa using hb)]

theorem percentDecodeBytes_escapeByte (b : UInt8) (rest : List UInt8) :
    percentDecodeBytes ((escapeByte b).map Char.toUInt8 ++ rest) = b :: percentDecodeBytes rest := by
  by_cases hb : isUnreserved b = true
  · -- a kept byte passes through: it is not `%`
    obtain ⟨hlt, h37, -⟩ := isUnreserved_bounds hb
    have hbyte : (Char.ofNat b.toNat).toUInt8 = b := by
      apply UInt8.toNat_inj.mp
      rw [toUInt8_toNat_ascii (by rw [toNat_ofNat_ascii hlt]; exact hlt), toNat_ofNat_ascii hlt]
    simp only [escapeByte, hb, if_true, List.map_singleton, hbyte, List.singleton_append]
    exact percentDecodeBytes_plain (fun he => h37 (by rw [he]; rfl)) rest
  · -- `%` and the two hex digits of the byte's high and low halves
    obtain ⟨hhi, hlo⟩ := byte_halves_lt b
    have hvalue : UInt8.ofNat (16 * (b.toNat / 16) + b.toNat % 16) = b := by
      rw [Nat.div_add_mod, UInt8.ofNat_toNat]
    simp only [escapeByte, hb, Bool.false_eq_true, if_false, List.map_cons, List.map_nil,
      List.cons_append, List.nil_append]
    conv => lhs; whnf
    simp [(hexUpper_read ⟨_, hhi⟩).2, (hexUpper_read ⟨_, hlo⟩).2, hvalue]

theorem percentDecodeBytes_escaped (bs : List UInt8) :
    percentDecodeBytes ((bs.flatMap escapeByte).map Char.toUInt8) = bs := by
  induction bs with
  | nil => rfl
  | cons b bs ih =>
    rw [List.flatMap_cons, List.map_append, percentDecodeBytes_escapeByte, ih]

theorem toList_toByteArray (l : List UInt8) : l.toByteArray.toList = l := by
  simp [Json.byteArray_toList]

theorem toByteArray_toList (ba : ByteArray) : ba.toList.toByteArray = ba := by
  apply ByteArray.ext
  rw [Json.byteArray_toList, List.data_toByteArray, Array.toArray_toList]

theorem decodeComponent_percentEncode (s : String) :
    decodeComponent (percentEncode s).toList = some s := by
  have hascii : ∀ c ∈ s.toUTF8.toList.flatMap escapeByte, c.toNat < 128 := by
    rw [← percentEncode_toList]
    exact fun c hc => (percentEncode_safe s c hc).1
  rw [decodeComponent, percentEncode_toList, Time.toUTF8_ofList_ascii hascii, toList_toByteArray,
    percentDecodeBytes_escaped, toByteArray_toList, String.toUTF8_eq_toByteArray]
  exact Json.fromUTF8?_toByteArray s

/-! ### The pairs in the full URL -/

/-- The text of one query pair in the full URL: the encoded name, `=`, the encoded value. -/
def pairText (p : String × String) : List Char :=
  (percentEncode p.1).toList ++ '=' :: (percentEncode p.2).toList

/-- A pair's text is cut at the `=` between its halves, and each half decodes to what was
encoded. -/
theorem decodePair_pairText (p : String × String) : decodePair (pairText p) = some p := by
  have hname : ∀ c ∈ (percentEncode p.1).toList, (c != '=') = true := by
    intro c hc
    simpa using (percentEncode_safe p.1 c hc).2.2.1
  have htake : (pairText p).takeWhile (· != '=') = (percentEncode p.1).toList := by
    rw [pairText, List.takeWhile_append_of_pos hname, List.takeWhile_cons_of_neg (by decide),
      List.append_nil]
  have hdrop : ((pairText p).dropWhile (· != '=')).drop 1 = (percentEncode p.2).toList := by
    rw [pairText, List.dropWhile_append_of_pos hname, List.dropWhile_cons_of_neg (by decide)]
    rfl
  simp [decodePair, htake, hdrop, decodeComponent_percentEncode]

theorem amp_not_mem_pairText (p : String × String) : '&' ∉ pairText p := by
  intro h
  simp only [pairText, List.mem_append, List.mem_cons] at h
  rcases h with h | h | h
  · exact (percentEncode_safe p.1 _ h).2.1 rfl
  · exact absurd h (by decide)
  · exact (percentEncode_safe p.2 _ h).2.1 rfl

/-- Without a `?` of its own, a URL with query pairs is followed by `?` and the pairs' texts
joined by `&`. -/
theorem fullUrl_toList (r : Request) (hq : r.query ≠ []) (hurl : '?' ∉ r.url.toList) :
    r.fullUrl.toList = r.url.toList ++ '?' :: ['&'].intercalate (r.query.map pairText) := by
  rw [fullUrl, if_neg (by simpa using hq)]
  simp only [String.contains_char_eq, hurl, decide_false, Bool.false_eq_true, if_false,
    String.toList_append, String.toList_intercalate, List.map_map]
  have hpair : (String.toList ∘ fun p : String × String => percentEncode p.1 ++ "=" ++ percentEncode p.2) =
      pairText := by
    funext p
    simp only [Function.comp_apply, String.toList_append, pairText, List.append_assoc,
      show "=".toList = ['='] from rfl, List.singleton_append]
  rw [hpair, show "?".toList = ['?'] from rfl, show "&".toList = ['&'] from rfl, List.append_assoc,
    List.singleton_append]

theorem queryPieces_fullUrl (r : Request) (hq : r.query ≠ []) (hurl : '?' ∉ r.url.toList) :
    queryPieces r.fullUrl = r.query.map pairText := by
  have hbefore : ∀ c ∈ r.url.toList, (c != '?') = true := by
    intro c hc
    simpa using fun he : c = '?' => hurl (he ▸ hc)
  rw [queryPieces, fullUrl_toList r hq hurl, List.dropWhile_append_of_pos hbefore,
    List.dropWhile_cons_of_neg (by decide), List.drop_one, List.tail_cons]
  apply List.splitOn_intercalate
  · intro l hl
    obtain ⟨p, -, rfl⟩ := List.mem_map.mp hl
    exact amp_not_mem_pairText p
  · simpa using hq

theorem mapM_decodePair (ps : List (String × String)) :
    (ps.map pairText).mapM decodePair = some ps := by
  induction ps with
  | nil => rfl
  | cons p ps ih => simp [List.mapM_cons, decodePair_pairText, ih]

/-- Reading the query of a request's full URL gives back its query pairs, in order and whatever
characters they hold, when the URL has no `?` of its own; with no pairs the full URL is the URL. -/
theorem readQuery_fullUrl (r : Request) (hurl : '?' ∉ r.url.toList) :
    (r.query ≠ [] → readQuery r.fullUrl = some r.query) ∧ (r.query = [] → r.fullUrl = r.url) := by
  constructor
  · intro hq
    rw [readQuery, queryPieces_fullUrl r hq hurl]
    exact mapM_decodePair r.query
  · intro hq
    simp [fullUrl, hq]

/-- A password holding `&`, `=`, `%`, `+`, a space and a letter outside ASCII comes back from the
full URL as it was sent. -/
theorem readQuery_fullUrl_password :
    '?' ∉ "https://fleet.example/api".toList ∧
      readQuery (((Request.new .get "https://fleet.example/api").withQuery "user" "ops").withQuery
        "password" "p&ss=w%rd +ü").fullUrl = some [("user", "ops"), ("password", "p&ss=w%rd +ü")] :=
  ⟨by decide, (readQuery_fullUrl _ (by decide)).1 (by simp [withQuery, Request.new])⟩

end Request

end FleetTelemetry.Http
