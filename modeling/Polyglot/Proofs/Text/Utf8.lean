import Polyglot.Text.Utf8

/-!
# Reading UTF-8

What was encoded is read back, by the lossy reading (`decodeLossy_encode`) and by the strict one,
which takes no other bytes (`decode?_eq_some_iff`). And the lossy reading goes line by line:
reading some bytes and splitting the text at its line feeds is splitting the bytes at theirs and
reading each piece on its own (`splitOn_decodeLossy`), even where a character is cut off by the
line feed. The last law holds because no character of more than one byte can end in ASCII
(`BeyondAscii`).
-/

namespace Polyglot.Text.Utf8

/-! ## Encoded text is read back -/

/-- The last byte of a character. -/
theorem piecesFrom_last {value low high : Nat} {byte : UInt8} (atLeast : low ≤ byte.toNat)
    (atMost : byte.toNat ≤ high) (rest : List UInt8) :
    piecesFrom (some ⟨value, low, high, 0⟩) (byte :: rest) =
      some (Char.ofNat (value * 0x40 + (byte.toNat - 0x80))) :: piecesFrom none rest := by
  simp [piecesFrom, step, atLeast, atMost]

/-- A byte inside a character. -/
theorem piecesFrom_inner {value low high further : Nat} {byte : UInt8}
    (atLeast : low ≤ byte.toNat) (atMost : byte.toNat ≤ high) (rest : List UInt8) :
    piecesFrom (some ⟨value, low, high, further + 1⟩) (byte :: rest) =
      piecesFrom (some ⟨value * 0x40 + (byte.toNat - 0x80), 0x80, 0xBF, further⟩) rest := by
  simp [piecesFrom, step, atLeast, atMost]

/-- The first byte of a character of several bytes. -/
theorem piecesFrom_lead {byte : UInt8} {p : Partial} (high : 0x80 ≤ byte.toNat)
    (found : lead? byte.toNat = some p) (rest : List UInt8) :
    piecesFrom none (byte :: rest) = piecesFrom (some p) rest := by
  simp [piecesFrom, step, begin, found, Nat.not_lt.mpr high]

theorem toNat_ofNat {n : Nat} (small : n < 0x100) : (UInt8.ofNat n).toNat = n :=
  UInt8.toNat_ofNat_of_lt' small

/-- The code points are those below the surrogates and those above them. -/
theorem codePoint_bounds (c : Char) :
    c.toNat < 0xD800 ∨ 0xDFFF < c.toNat ∧ c.toNat < 0x110000 :=
  c.valid

/-- The leading byte of a character of two bytes. -/
theorem lead?_two {n : Nat} (low : 2 ≤ n) (high : n < 0x20) :
    lead? (0xC0 + n) = some ⟨n, 0x80, 0xBF, 0⟩ := by
  rw [lead?, if_neg (by omega), if_pos (by omega), Nat.add_sub_cancel_left]

/-- The leading byte of a character of three bytes. -/
theorem lead?_three {n : Nat} (high : n < 0x10) :
    lead? (0xE0 + n) =
      some ⟨n, if n = 0 then 0xA0 else 0x80, if n = 0xD then 0x9F else 0xBF, 1⟩ := by
  rw [lead?, if_neg (by omega), if_neg (by omega), if_pos (by omega), Nat.add_sub_cancel_left]
  simp only [Nat.add_eq_left, show 0xE0 + n = 0xED ↔ n = 0xD by omega]

/-- The leading byte of a character of four bytes. -/
theorem lead?_four {n : Nat} (high : n < 5) :
    lead? (0xF0 + n) =
      some ⟨n, if n = 0 then 0x90 else 0x80, if n = 4 then 0x8F else 0xBF, 2⟩ := by
  rw [lead?, if_neg (by omega), if_neg (by omega), if_neg (by omega), if_pos (by omega),
    Nat.add_sub_cancel_left]
  simp only [Nat.add_eq_left, show 0xF0 + n = 0xF4 ↔ n = 4 by omega]

/-- An encoded character is read back, whatever follows it. -/
theorem piecesFrom_encodeChar (c : Char) (rest : List UInt8) :
    piecesFrom none (encodeChar c ++ rest) = some c :: piecesFrom none rest := by
  have bounds := codePoint_bounds c
  have same : Char.ofNat c.toNat = c := Char.ofNat_toNat c
  unfold encodeChar
  generalize c.toNat = n at bounds same
  -- the length of the encoding goes by the size of the code point
  by_cases one : n < 0x80
  · have byte : (UInt8.ofNat n).toNat = n := toNat_ofNat (by omega)
    simp [one, piecesFrom, step, begin, byte, same]
  by_cases two : n < 0x800
  · have first : (UInt8.ofNat (0xC0 + n / 0x40)).toNat = 0xC0 + n / 0x40 :=
      toNat_ofNat (by omega)
    have second : (UInt8.ofNat (0x80 + n % 0x40)).toNat = 0x80 + n % 0x40 :=
      toNat_ofNat (by omega)
    have lead := lead?_two (n := n / 0x40) (by omega) (by omega)
    rw [← first] at lead
    rw [if_neg one, if_pos two, List.cons_append, piecesFrom_lead (by omega) lead,
      List.cons_append, piecesFrom_last (by omega) (by omega), second, Nat.add_sub_cancel_left,
      show n / 0x40 * 0x40 + n % 0x40 = n by omega, same]
    rfl
  by_cases three : n < 0x10000
  · have first : (UInt8.ofNat (0xE0 + n / 0x1000)).toNat = 0xE0 + n / 0x1000 :=
      toNat_ofNat (by omega)
    have second : (UInt8.ofNat (0x80 + n / 0x40 % 0x40)).toNat = 0x80 + n / 0x40 % 0x40 :=
      toNat_ofNat (by omega)
    have third : (UInt8.ofNat (0x80 + n % 0x40)).toNat = 0x80 + n % 0x40 :=
      toNat_ofNat (by omega)
    have lead := lead?_three (n := n / 0x1000) (by omega)
    rw [← first] at lead
    rw [if_neg one, if_neg two, if_pos three, List.cons_append, piecesFrom_lead (by omega) lead,
      List.cons_append, piecesFrom_inner (by split <;> omega) (by split <;> omega),
      List.cons_append, piecesFrom_last (by omega) (by omega), second, third,
      Nat.add_sub_cancel_left, Nat.add_sub_cancel_left,
      show (n / 0x1000 * 0x40 + n / 0x40 % 0x40) * 0x40 + n % 0x40 = n by omega, same]
    rfl
  · have first : (UInt8.ofNat (0xF0 + n / 0x40000)).toNat = 0xF0 + n / 0x40000 :=
      toNat_ofNat (by omega)
    have second : (UInt8.ofNat (0x80 + n / 0x1000 % 0x40)).toNat = 0x80 + n / 0x1000 % 0x40 :=
      toNat_ofNat (by omega)
    have third : (UInt8.ofNat (0x80 + n / 0x40 % 0x40)).toNat = 0x80 + n / 0x40 % 0x40 :=
      toNat_ofNat (by omega)
    have fourth : (UInt8.ofNat (0x80 + n % 0x40)).toNat = 0x80 + n % 0x40 :=
      toNat_ofNat (by omega)
    have lead := lead?_four (n := n / 0x40000) (by omega)
    rw [← first] at lead
    rw [if_neg one, if_neg two, if_neg three, List.cons_append, piecesFrom_lead (by omega) lead,
      List.cons_append, piecesFrom_inner (by split <;> omega) (by split <;> omega),
      List.cons_append, piecesFrom_inner (by omega) (by omega),
      List.cons_append, piecesFrom_last (by omega) (by omega), second, third, fourth,
      Nat.add_sub_cancel_left, Nat.add_sub_cancel_left, Nat.add_sub_cancel_left,
      show ((n / 0x40000 * 0x40 + n / 0x1000 % 0x40) * 0x40 + n / 0x40 % 0x40) * 0x40 + n % 0x40
        = n by omega, same]
    rfl

theorem pieces_encode (cs : List Char) : pieces (encode cs) = cs.map some := by
  induction cs with
  | nil => rfl
  | cons c cs ih =>
    rw [pieces] at ih
    rw [pieces, encode, List.flatMap_cons, piecesFrom_encodeChar, ← encode, ih, List.map_cons]

theorem encode_append (front back : List Char) :
    encode (front ++ back) = encode front ++ encode back :=
  List.flatMap_append

/-- **Round trip.** Encoded text has no malformed sequence and is read back as it was. -/
theorem decodeLossy_encode (cs : List Char) : decodeLossy (encode cs) = cs := by
  rw [decodeLossy, pieces_encode, List.map_map]
  exact List.map_id cs

/-! ## Strict reading -/

/-- No character is without bytes. -/
theorem encodeChar_ne_nil (c : Char) : encodeChar c ≠ [] := by
  unfold encodeChar
  simp only
  split
  · nofun
  · split
    · nofun
    · split <;> nofun

theorem exists_codePoint {n : Nat} (valid : n.isValidChar) : ∃ c : Char, c.toNat = n := by
  refine ⟨Char.ofNat n, ?_⟩
  rw [Char.ofNat, dif_pos valid]
  rfl

theorem ofNat_eq (byte : UInt8) {n : Nat} (same : n = byte.toNat) : UInt8.ofNat n = byte := by
  rw [same, UInt8.ofNat_toNat]

section Sequences

variable {first second third fourth : UInt8}

/-- Two bytes that the decoder takes are a character. -/
theorem exists_encodeChar_two (lead : 0xC2 ≤ first.toNat) (lead' : first.toNat < 0xE0)
    (low : 0x80 ≤ second.toNat) (high : second.toNat ≤ 0xBF) :
    ∃ c, encodeChar c = [first, second] := by
  obtain ⟨c, code⟩ := exists_codePoint (n := (first.toNat - 0xC0) * 0x40 + (second.toNat - 0x80))
    (.inl (by omega))
  refine ⟨c, ?_⟩
  rw [encodeChar, code, if_neg (by omega), if_pos (by omega), ofNat_eq first (by omega),
    ofNat_eq second (by omega)]

/-- So are three, since the bounds on the second leave out overlong forms and surrogates. -/
theorem exists_encodeChar_three (lead : 0xE0 ≤ first.toNat) (lead' : first.toNat < 0xF0)
    (low : (if first.toNat = 0xE0 then 0xA0 else 0x80) ≤ second.toNat)
    (high : second.toNat ≤ if first.toNat = 0xED then 0x9F else 0xBF)
    (low' : 0x80 ≤ third.toNat) (high' : third.toNat ≤ 0xBF) :
    ∃ c, encodeChar c = [first, second, third] := by
  have plain : 0x80 ≤ second.toNat ∧ second.toNat ≤ 0xBF := by
    constructor
    · split at low <;> omega
    · split at high <;> omega
  have overlong : first.toNat = 0xE0 → 0xA0 ≤ second.toNat :=
    fun same => by rwa [if_pos same] at low
  have surrogate : first.toNat = 0xED → second.toNat ≤ 0x9F :=
    fun same => by rwa [if_pos same] at high
  -- what is left of the bounds is linear
  clear low high
  obtain ⟨c, code⟩ := exists_codePoint
    (n := ((first.toNat - 0xE0) * 0x40 + (second.toNat - 0x80)) * 0x40 + (third.toNat - 0x80))
    (by unfold Nat.isValidChar; omega)
  refine ⟨c, ?_⟩
  rw [encodeChar, code, if_neg (by omega), if_neg (by omega), if_pos (by omega),
    ofNat_eq first (by omega), ofNat_eq second (by omega),
    ofNat_eq third (by omega)]

/-- So are four, up to the last code point. -/
theorem exists_encodeChar_four (lead : 0xF0 ≤ first.toNat) (lead' : first.toNat < 0xF5)
    (low : (if first.toNat = 0xF0 then 0x90 else 0x80) ≤ second.toNat)
    (high : second.toNat ≤ if first.toNat = 0xF4 then 0x8F else 0xBF)
    (low' : 0x80 ≤ third.toNat) (high' : third.toNat ≤ 0xBF)
    (low'' : 0x80 ≤ fourth.toNat) (high'' : fourth.toNat ≤ 0xBF) :
    ∃ c, encodeChar c = [first, second, third, fourth] := by
  have plain : 0x80 ≤ second.toNat ∧ second.toNat ≤ 0xBF := by
    constructor
    · split at low <;> omega
    · split at high <;> omega
  have overlong : first.toNat = 0xF0 → 0x90 ≤ second.toNat :=
    fun same => by rwa [if_pos same] at low
  have beyond : first.toNat = 0xF4 → second.toNat ≤ 0x8F :=
    fun same => by rwa [if_pos same] at high
  clear low high
  obtain ⟨c, code⟩ := exists_codePoint
    (n := (((first.toNat - 0xF0) * 0x40 + (second.toNat - 0x80)) * 0x40 +
      (third.toNat - 0x80)) * 0x40 + (fourth.toNat - 0x80))
    (by unfold Nat.isValidChar; omega)
  refine ⟨c, ?_⟩
  rw [encodeChar, code, if_neg (by omega), if_neg (by omega), if_neg (by omega),
    ofNat_eq first (by omega), ofNat_eq second (by omega),
    ofNat_eq third (by omega), ofNat_eq fourth (by omega)]

end Sequences

/-- Where no sequence is malformed, a character under way takes the next byte. -/
theorem piecesFrom_strict {p : Partial} {bytes : List UInt8}
    (strict : none ∉ piecesFrom (some p) bytes) :
    ∃ byte rest, bytes = byte :: rest ∧ p.low ≤ byte.toNat ∧ byte.toNat ≤ p.high ∧
      ∀ further, p.further = further + 1 →
        none ∉ piecesFrom (some ⟨p.value * 0x40 + (byte.toNat - 0x80), 0x80, 0xBF, further⟩)
          rest := by
  cases bytes with
  | nil => exact absurd List.mem_cons_self strict
  | cons byte rest =>
    by_cases within : p.low ≤ byte.toNat ∧ byte.toNat ≤ p.high
    · refine ⟨byte, rest, rfl, within.1, within.2, fun further more => ?_⟩
      obtain ⟨value, low, high, _⟩ := p
      subst more
      rwa [piecesFrom_inner within.1 within.2] at strict
    · refine absurd ?_ strict
      simp [piecesFrom, step, within]

/-- Where no sequence is malformed, bytes begin with an encoded character. -/
theorem exists_encodeChar_append {byte : UInt8} {rest : List UInt8}
    (strict : none ∉ piecesFrom none (byte :: rest)) :
    ∃ c more, byte :: rest = encodeChar c ++ more := by
  by_cases ascii : byte.toNat < 0x80
  · obtain ⟨c, code⟩ := exists_codePoint (n := byte.toNat) (.inl (by omega))
    refine ⟨c, rest, ?_⟩
    rw [encodeChar, code, if_pos ascii, UInt8.ofNat_toNat]
    rfl
  cases lead : lead? byte.toNat with
  | none =>
    refine absurd ?_ strict
    simp [piecesFrom, step, begin, ascii, lead]
  | some p =>
    rw [piecesFrom_lead (Nat.not_lt.mp ascii) lead] at strict
    -- the leading byte says how many bytes have to follow
    unfold lead? at lead
    split at lead
    · cases lead
    next atLeast =>
    split at lead
    · next two =>
      rw [Option.some.injEq] at lead
      subst lead
      obtain ⟨second, more, rfl, low, high, -⟩ := piecesFrom_strict strict
      obtain ⟨c, encoded⟩ := exists_encodeChar_two (Nat.not_lt.mp atLeast) two low high
      exact ⟨c, more, by rw [encoded]; rfl⟩
    next atLeast =>
    split at lead
    · next three =>
      rw [Option.some.injEq] at lead
      subst lead
      obtain ⟨second, rest, rfl, low, high, strict⟩ := piecesFrom_strict strict
      obtain ⟨third, more, rfl, low', high', -⟩ := piecesFrom_strict (strict 0 rfl)
      obtain ⟨c, encoded⟩ :=
        exists_encodeChar_three (Nat.not_lt.mp atLeast) three low high low' high'
      exact ⟨c, more, by rw [encoded]; rfl⟩
    next atLeast =>
    split at lead
    · next four =>
      rw [Option.some.injEq] at lead
      subst lead
      obtain ⟨second, rest, rfl, low, high, strict⟩ := piecesFrom_strict strict
      obtain ⟨third, rest, rfl, low', high', strict⟩ := piecesFrom_strict (strict 1 rfl)
      obtain ⟨fourth, more, rfl, low'', high'', -⟩ := piecesFrom_strict (strict 0 rfl)
      obtain ⟨c, encoded⟩ :=
        exists_encodeChar_four (Nat.not_lt.mp atLeast) four low high low' high' low'' high''
      exact ⟨c, more, by rw [encoded]; rfl⟩
    · cases lead

/-- Where no sequence is malformed, bytes are an encoded text. -/
theorem exists_encode_eq {bytes : List UInt8} (strict : none ∉ pieces bytes) :
    ∃ cs, bytes = encode cs := by
  induction size : bytes.length using Nat.strongRecOn generalizing bytes with
  | _ n ih =>
    cases bytes with
    | nil => exact ⟨[], rfl⟩
    | cons byte rest =>
      obtain ⟨c, more, split⟩ := exists_encodeChar_append strict
      rw [pieces, split, piecesFrom_encodeChar, List.mem_cons, not_or] at strict
      have shorter : more.length < n := by
        have filled := List.length_pos_iff.mpr (encodeChar_ne_nil c)
        have lengths := congrArg List.length split
        rw [size, List.length_append] at lengths
        omega
      obtain ⟨cs, rfl⟩ := ih more.length shorter strict.2 rfl
      exact ⟨c :: cs, by rw [split, encode, encode, List.flatMap_cons]⟩

/-- Values are there just when each of them is. -/
theorem mapM_id_eq_some_iff {α : Type} {found : List (Option α)} {values : List α} :
    found.mapM id = some values ↔ found = values.map some := by
  induction found generalizing values with
  | nil => cases values <;> simp
  | cons first found ih =>
    cases first with
    | none => cases values <;> simp
    | some value =>
      simp only [List.mapM_cons, id, Option.bind_eq_bind, Option.bind_some, Option.pure_def,
        Option.bind_eq_some_iff, Option.some.injEq]
      constructor
      · rintro ⟨others, read, rfl⟩
        rw [ih.mp read, List.map_cons]
      · intro same
        obtain ⟨value', others, rfl, present, same⟩ := List.map_eq_cons_iff.mp same.symm
        exact ⟨others, ih.mpr same.symm, by rw [Option.some.inj present]⟩

/-- **Strict reading** takes the bytes of a text and no others. -/
theorem decode?_eq_some_iff {bytes : List UInt8} {cs : List Char} :
    decode? bytes = some cs ↔ bytes = encode cs := by
  rw [decode?, mapM_id_eq_some_iff]
  constructor
  · intro read
    have strict : none ∉ pieces bytes := by simp [read]
    obtain ⟨cs', rfl⟩ := exists_encode_eq strict
    rw [pieces_encode] at read
    rw [List.map_inj_right (fun _ _ => Option.some.inj)] at read
    rw [read]
  · rintro rfl
    exact pieces_encode cs

/-! ## Reading goes line by line -/

/-- The text of some bytes that go on from a state. -/
def lossyFrom (state : State) (bytes : List UInt8) : List Char :=
  (piecesFrom state bytes).map (·.getD '\ufffd')

/-- The least code point that a character under way can end in. -/
def Partial.least (p : Partial) : Nat :=
  (p.value * 0x40 + (p.low - 0x80)) * Nat.pow 0x40 p.further

/-- A character under way takes no ASCII byte and does not end in ASCII. -/
def BeyondAscii (state : State) : Prop :=
  ∀ p ∈ state, 0x80 ≤ p.low ∧ 0x80 ≤ p.least

/-- Between characters nothing is under way. -/
theorem beyondAscii_none : BeyondAscii none :=
  fun _ found => absurd found (Option.not_mem_none _)

theorem lead?_beyondAscii (b : Nat) : BeyondAscii (lead? b) := by
  intro p found
  unfold lead? at found
  split at found
  · cases found
  split at found
  · rw [Option.mem_some_iff] at found
    subst found
    simp only [Partial.least, Nat.pow_eq]
    omega
  split at found
  · rw [Option.mem_some_iff] at found
    subst found
    simp only [Partial.least, Nat.pow_eq]
    constructor <;> split <;> omega
  split at found
  · rw [Option.mem_some_iff] at found
    subst found
    simp only [Partial.least, Nat.pow_eq]
    constructor <;> split <;> omega
  · cases found

/-- Only ten is the code point of the line feed; what is no code point stands for zero. -/
theorem ofNat_ne_lineFeed {n : Nat} (other : n ≠ 10) : Char.ofNat n ≠ '\n' := by
  intro same
  have values : (Char.ofNat n).toNat = 10 := congrArg Char.toNat same
  by_cases valid : n.isValidChar
  · rw [Char.ofNat, dif_pos valid] at values
    exact other values
  · rw [Char.ofNat, dif_neg valid] at values
    cases values

/-- Beginning with any byte keeps the invariant, and yields a line feed for that byte only. -/
theorem begin_spec (b : Nat) :
    BeyondAscii (begin b).2 ∧ (b ≠ 10 → '\n' ∉ (begin b).1.map (·.getD '\ufffd')) := by
  unfold begin
  split
  · refine ⟨beyondAscii_none, fun other => ?_⟩
    simpa using (ofNat_ne_lineFeed other).symm
  · split
    · next found => exact ⟨found ▸ lead?_beyondAscii b, fun _ => by simp⟩
    · exact ⟨beyondAscii_none, fun _ => by simp⟩

/-- One byte keeps the invariant, and yields a line feed for that byte only. -/
theorem step_spec {state : State} (sound : BeyondAscii state) (byte : UInt8) :
    BeyondAscii (step state byte).2 ∧
      (byte ≠ lineFeed → '\n' ∉ (step state byte).1.map (·.getD '\ufffd')) := by
  have other : byte ≠ lineFeed → byte.toNat ≠ 10 := fun h same =>
    h (UInt8.toNat_inj.mp same)
  have began := begin_spec byte.toNat
  cases state with
  | none => exact ⟨began.1, fun h => began.2 (other h)⟩
  | some p =>
    obtain ⟨low, least⟩ := sound p rfl
    rw [Partial.least, Nat.pow_eq] at least
    unfold step
    simp only
    -- a byte within the bounds goes to the character under way; any other ends it and begins anew
    split
    · next within =>
      simp only [Bool.and_eq_true, decide_eq_true_eq] at within
      split
      · next last =>
        rw [last, Nat.pow_zero, Nat.mul_one] at least
        refine ⟨beyondAscii_none, fun _ => ?_⟩
        simp only [List.map_cons, List.map_nil, Option.getD_some, List.mem_singleton]
        exact (ofNat_ne_lineFeed (by omega)).symm
      · next further inner =>
        refine ⟨fun q found => ?_, fun _ => List.not_mem_nil⟩
        -- one byte more leaves the least code point as it was, or makes it larger
        rw [Option.mem_some_iff] at found
        subst found
        refine ⟨Nat.le_refl _, ?_⟩
        rw [inner] at least
        simp only [Partial.least, Nat.pow_eq]
        calc 0x80 ≤ (p.value * 0x40 + (p.low - 0x80)) * 0x40 ^ (further + 1) := least
          _ = (p.value * 0x40 + (p.low - 0x80)) * 0x40 * 0x40 ^ further := by
            rw [Nat.pow_succ', Nat.mul_assoc]
          _ ≤ _ := Nat.mul_le_mul_right _ (by omega)
    · refine ⟨began.1, fun h => ?_⟩
      rw [List.map_cons, List.mem_cons, not_or]
      exact ⟨by decide, began.2 (other h)⟩

/-- An ASCII byte ends the character under way, if there is one, as the end of the bytes would. -/
theorem step_ascii {state : State} (sound : BeyondAscii state) {byte : UInt8}
    (ascii : byte.toNat < 0x80) :
    step state byte = (piecesFrom state [] ++ [some (Char.ofNat byte.toNat)], none) := by
  have began : begin byte.toNat = ([some (Char.ofNat byte.toNat)], none) := by
    rw [begin, if_pos ascii]
  cases state with
  | none => exact began
  | some p =>
    have low : ¬ (decide (p.low ≤ byte.toNat) && decide (byte.toNat ≤ p.high)) = true := by
      have := (sound p rfl).1
      simp only [Bool.and_eq_true, decide_eq_true_eq]
      omega
    unfold step
    simp only
    rw [if_neg low, began]
    rfl

/-- Bytes without a line feed are text without one. -/
theorem not_mem_lossyFrom {state : State} (sound : BeyondAscii state) {bytes : List UInt8}
    (clean : lineFeed ∉ bytes) : '\n' ∉ lossyFrom state bytes := by
  induction bytes generalizing state with
  | nil => cases state <;> simp [lossyFrom, piecesFrom]
  | cons byte bytes ih =>
    rw [List.mem_cons, not_or] at clean
    obtain ⟨sound', pieces⟩ := step_spec sound byte
    rw [lossyFrom, piecesFrom, List.map_append, List.mem_append, not_or]
    exact ⟨pieces (Ne.symm clean.1), ih sound' clean.2⟩

/-- Reading begins anew after an ASCII byte. -/
theorem lossyFrom_append_ascii {state : State} (sound : BeyondAscii state) {byte : UInt8}
    (ascii : byte.toNat < 0x80) (line rest : List UInt8) :
    lossyFrom state (line ++ byte :: rest) =
      lossyFrom state line ++ Char.ofNat byte.toNat :: decodeLossy rest := by
  induction line generalizing state with
  | nil =>
    rw [List.nil_append, lossyFrom, piecesFrom, step_ascii sound ascii, List.map_append,
      List.map_append, List.append_assoc]
    rfl
  | cons first line ih =>
    rw [List.cons_append, lossyFrom, piecesFrom, List.map_append, ← lossyFrom,
      ih (step_spec sound first).1, ← List.append_assoc, lossyFrom, lossyFrom, piecesFrom,
      List.map_append]

/-- So an ASCII byte at the end is a character at the end, even behind a character that is cut
off. -/
theorem decodeLossy_append_ascii {byte : UInt8} (ascii : byte.toNat < 0x80) (bytes : List UInt8) :
    decodeLossy (bytes ++ [byte]) = decodeLossy bytes ++ [Char.ofNat byte.toNat] :=
  lossyFrom_append_ascii beyondAscii_none ascii bytes []

/-- And an ASCII byte in front is a character in front. -/
theorem decodeLossy_cons_ascii {byte : UInt8} (ascii : byte.toNat < 0x80) (bytes : List UInt8) :
    decodeLossy (byte :: bytes) = Char.ofNat byte.toNat :: decodeLossy bytes :=
  lossyFrom_append_ascii beyondAscii_none ascii [] bytes

/-- **Lossy reading goes line by line.** The lines of the text are the texts of the lines. -/
theorem splitOn_decodeLossy (bytes : List UInt8) :
    (decodeLossy bytes).splitOn '\n' = (bytes.splitOn lineFeed).map decodeLossy := by
  induction size : bytes.length using Nat.strongRecOn generalizing bytes with
  | _ n ih =>
    by_cases found : lineFeed ∈ bytes
    · obtain ⟨line, rest, rfl, clean⟩ := List.eq_append_cons_of_mem found
      have shorter : rest.length < n := by simp at size; omega
      have text : decodeLossy (line ++ lineFeed :: rest) =
          decodeLossy line ++ '\n' :: decodeLossy rest :=
        lossyFrom_append_ascii beyondAscii_none (by decide) line rest
      have cleanText : '\n' ∉ decodeLossy line := not_mem_lossyFrom beyondAscii_none clean
      rw [text, List.splitOn_append_cons_self_of_not_mem cleanText,
        List.splitOn_append_cons_self_of_not_mem clean, List.map_cons,
        ih rest.length shorter rest rfl]
    · have cleanText : '\n' ∉ decodeLossy bytes := not_mem_lossyFrom beyondAscii_none found
      rw [List.splitOn_eq_singleton found, List.splitOn_eq_singleton cleanText]
      rfl

/-- The bytes of a text hold a line feed only where the text does. -/
theorem lineFeed_not_mem_encode {cs : List Char} (single : '\n' ∉ cs) :
    lineFeed ∉ encode cs := by
  intro mem
  obtain ⟨line, rest, split, clean⟩ := List.eq_append_cons_of_mem mem
  have lines := splitOn_decodeLossy (encode cs)
  rw [decodeLossy_encode, List.splitOn_eq_singleton single, split,
    List.splitOn_append_cons_self_of_not_mem clean, List.map_cons, List.cons.injEq] at lines
  exact List.splitOn_ne_nil lineFeed rest (List.map_eq_nil_iff.mp lines.2.symm)

end Polyglot.Text.Utf8
