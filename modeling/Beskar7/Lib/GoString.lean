import Mathlib

/-!
# Go strings

A Go string is a sequence of bytes: `len`, indexing and slicing count bytes,
and a slice of a valid UTF-8 string need not be valid. Strings that come
from API objects are valid UTF-8 and are Lean strings here; what is computed
from their bytes is a byte list. `bytes` is the UTF-8 encoding, and it is
injective, so comparing bytes compares strings.

`sscanfInt` is `fmt.Sscanf(s, "%d", &v)` for a 64-bit `int v`: it skips
spaces (a newline is an error), reads an optional sign and a run of the
decimal digits 0-9 (the underscores of Go's number syntax are taken only by
`%v`), and hands that token to `strconv.ParseInt` in base 10, which rejects
values outside `int64`. The rest of the string is ignored.
-/

namespace GoString

/-- The bytes of a string. -/
def bytes (s : String) : List UInt8 := s.toList.flatMap String.utf8EncodeChar

theorem bytes_eq_toByteArray (s : String) : bytes s = s.toByteArray.data.toList := by
  rw [← String.utf8Encode_toList]
  simp [bytes, List.utf8Encode]

theorem bytes_inj {s t : String} (h : bytes s = bytes t) : s = t := by
  rw [bytes_eq_toByteArray, bytes_eq_toByteArray] at h
  exact String.toByteArray_inj.mp (ByteArray.ext (Array.ext' h))

@[simp] theorem bytes_eq_bytes {s t : String} : bytes s = bytes t ↔ s = t :=
  ⟨bytes_inj, congrArg bytes⟩

@[simp] theorem bytes_append (s t : String) : bytes (s ++ t) = bytes s ++ bytes t := by
  simp [bytes]

@[simp] theorem bytes_eq_nil {s : String} : bytes s = [] ↔ s = "" := by
  rw [bytes, List.flatMap_eq_nil_iff]
  simp only [String.utf8EncodeChar_ne_nil, imp_false]
  rw [← List.eq_nil_iff_forall_not_mem]
  exact String.toList_eq_nil_iff

/-- Oring in a byte whose top bit is set leaves no ASCII byte. -/
theorem or_ne_ascii (x : UInt8) {y b : UInt8} (hy : 128 ≤ y.toNat) (hb : b.toNat < 128) :
    (x ||| y) ≠ b := by
  intro h
  have hhigh : y.toNat ≤ (x ||| y).toNat := by
    rw [UInt8.toNat_or]
    exact Nat.right_le_or
  rw [h] at hhigh
  omega

/-- An ASCII byte occurs in the UTF-8 encoding of a character only as that
character: the bytes of a longer encoding all have their top bit set. -/
theorem eq_of_ascii_mem_utf8EncodeChar {c : Char} {b : UInt8} (hb : b.toNat < 128)
    (hmem : b ∈ String.utf8EncodeChar c) : c.toNat = b.toNat := by
  have hpos := Char.utf8Size_pos c
  have hle := Char.utf8Size_le_four c
  have h80 := fun x => or_ne_ascii x (by decide : 128 ≤ (0x80 : UInt8).toNat) hb
  have hc0 := fun x => or_ne_ascii x (by decide : 128 ≤ (0xc0 : UInt8).toNat) hb
  have he0 := fun x => or_ne_ascii x (by decide : 128 ≤ (0xe0 : UInt8).toNat) hb
  have hf0 := fun x => or_ne_ascii x (by decide : 128 ≤ (0xf0 : UInt8).toNat) hb
  -- one case per length of the encoding; only the one-byte case is ASCII
  match hsize : c.utf8Size, hpos, hle with
  | 1, _, _ =>
    rw [String.utf8EncodeChar_eq_singleton hsize, List.mem_singleton] at hmem
    have hval : c.val.toNat ≤ 127 := UInt32.le_iff_toNat_le.mp (Char.utf8Size_eq_one_iff.mp hsize)
    subst hmem
    rw [UInt32.toNat_toUInt8]
    show c.val.toNat = c.val.toNat % 256
    omega
  | 2, _, _ =>
    rw [String.utf8EncodeChar_eq_cons_cons hsize] at hmem
    simp only [List.mem_cons, List.not_mem_nil, or_false] at hmem
    rcases hmem with h | h
    · exact absurd h.symm (hc0 _)
    · exact absurd h.symm (h80 _)
  | 3, _, _ =>
    rw [String.utf8EncodeChar_eq_cons_cons_cons hsize] at hmem
    simp only [List.mem_cons, List.not_mem_nil, or_false] at hmem
    rcases hmem with h | h | h
    · exact absurd h.symm (he0 _)
    · exact absurd h.symm (h80 _)
    · exact absurd h.symm (h80 _)
  | 4, _, _ =>
    rw [String.utf8EncodeChar_eq_cons_cons_cons_cons hsize] at hmem
    simp only [List.mem_cons, List.not_mem_nil, or_false] at hmem
    rcases hmem with h | h | h | h
    · exact absurd h.symm (hf0 _)
    · exact absurd h.symm (h80 _)
    · exact absurd h.symm (h80 _)
    · exact absurd h.symm (h80 _)

/-- The byte of an ASCII character occurs in the encoding of a list of
characters only where the character itself does: searching the bytes for it
searches the characters. -/
theorem mem_of_ascii_mem_flatMap {c : Char} (hc : c.toNat < 128) {l : List Char}
    (h : c.toNat.toUInt8 ∈ l.flatMap String.utf8EncodeChar) : c ∈ l := by
  obtain ⟨d, hd, hmem⟩ := List.mem_flatMap.mp h
  have hbyte : c.toNat.toUInt8.toNat = c.toNat := by
    simp only [Nat.toUInt8_eq, UInt8.toNat_ofNat']
    omega
  have hdc : d.toNat = c.toNat := by
    rw [eq_of_ascii_mem_utf8EncodeChar (by omega) hmem, hbyte]
  rwa [Char.toNat_inj.mp hdc] at hd

-- ---------------------------------------------------------------------------
-- Ranging and splitting
-- ---------------------------------------------------------------------------

/-- The runes of `for i, r := range s` from byte offset `i` on, each with the
offset it starts at. -/
def rangeFrom : List Char → Nat → List (Nat × Char)
  | [], _ => []
  | c :: rest, i => (i, c) :: rangeFrom rest (i + c.utf8Size)

/-- `for i, r := range s`. -/
def range (s : String) : List (Nat × Char) := rangeFrom s.toList 0

/-- `strings.Split(s, sep)` for a one-character separator: the pieces between
the separators, one more than there are separators. The separator's
encoding starts no other character's, so splitting the characters splits
the bytes. -/
def stringsSplit (s : String) (sep : Char) : List String := (s.toList.splitOn sep).map String.ofList

/-- `strings.Contains(s, substr)`. -/
def stringsContains (s substr : String) : Bool := decide (substr.toList <:+: s.toList)

/-- `unicode.ToLower` on the runes it maps into ASCII: the capitals, `U+0130`
and the Kelvin sign `U+212A`. It maps every other rune outside ASCII, or
keeps it; here such a rune is kept, which a search for ASCII text in the
result cannot tell apart. -/
def toLowerRune (r : Char) : Char :=
  if 'A' ≤ r ∧ r ≤ 'Z' then Char.ofNat (r.toNat + 32)
  else if r.toNat = 0x130 then 'i'
  else if r.toNat = 0x212A then 'k'
  else r

/-- `strings.ToLower`, as far as a search for ASCII text sees it. -/
def stringsToLower (s : String) : String := String.ofList (s.toList.map toLowerRune)

theorem char_lt_iff {a b : Char} : a < b ↔ a.toNat < b.toNat := by
  rw [Char.lt_def, UInt32.lt_iff_toNat_lt, Char.toNat_val, Char.toNat_val]

/-- `Char.isAlphanum` is the ASCII letters and digits, by code point. -/
theorem isAlphanum_iff {c : Char} : c.isAlphanum = true ↔
    (97 ≤ c.toNat ∧ c.toNat ≤ 122) ∨ (65 ≤ c.toNat ∧ c.toNat ≤ 90) ∨ (48 ≤ c.toNat ∧ c.toNat ≤ 57) := by
  simp only [Char.isAlphanum, Char.isAlpha, Char.isUpper, Char.isLower, Char.isDigit, Bool.or_eq_true,
    Bool.and_eq_true, decide_eq_true_eq, ge_iff_le, UInt32.le_iff_toNat_le, Char.toNat_val]
  -- the bounds are the code points of the literals
  simp only [Char.reduceToNat]
  omega

theorem isAlphanum_ascii {c : Char} (h : c.isAlphanum = true) : c.toNat < 128 := by
  rw [isAlphanum_iff] at h
  omega

theorem utf8Size_of_ascii {c : Char} (hc : c.toNat < 128) : c.utf8Size = 1 := by
  apply Char.utf8Size_eq_one_iff.mpr
  rw [UInt32.le_iff_toNat_le]
  exact Nat.le_of_lt_succ hc

/-- ASCII text has a byte for each character. -/
theorem bytes_ofList_length {l : List Char} (hl : ∀ c ∈ l, c.toNat < 128) :
    (bytes (String.ofList l)).length = l.length := by
  induction l with
  | nil => rfl
  | cons c l ih =>
    have hc := utf8Size_of_ascii (hl c List.mem_cons_self)
    simp only [bytes, String.toList_ofList, List.flatMap_cons, List.length_append,
      String.length_utf8EncodeChar, hc, List.length_cons] at ih ⊢
    rw [ih fun d hd => hl d (List.mem_cons_of_mem c hd)]
    omega

/-- The runes of a range are the characters, whatever their offsets. -/
@[simp] theorem rangeFrom_map_snd (l : List Char) (i : Nat) : (rangeFrom l i).map Prod.snd = l := by
  induction l generalizing i with
  | nil => rfl
  | cons c l ih => simp [rangeFrom, ih]

/-- Over ASCII text a rune's byte offset is its index. -/
theorem rangeFrom_eq_zipIdx {l : List Char} (hl : ∀ c ∈ l, c.toNat < 128) (i : Nat) :
    rangeFrom l i = (l.zipIdx i).map Prod.swap := by
  induction l generalizing i with
  | nil => rfl
  | cons c l ih =>
    rw [rangeFrom, utf8Size_of_ascii (hl c List.mem_cons_self),
      ih (fun d hd => hl d (List.mem_cons_of_mem c hd)), List.zipIdx_cons, List.map_cons]
    rfl

/-- Two separators in a row leave an empty piece between them, after the
first piece. -/
theorem nil_mem_tail_splitOn_of_infix {α : Type} [BEq α] [LawfulBEq α] {x : α} :
    ∀ {s : List α}, [x, x] <:+: s → [] ∈ (s.splitOn x).tail
  | [], h => absurd (List.eq_nil_of_infix_nil h) (by simp)
  | c :: s, h => by
    simp only [List.splitOn, List.splitOnP_cons_eq_if_modifyHead] at h ⊢
    rcases List.infix_cons_iff.mp h with hpre | hin
    · -- the pair starts here: c and the next character are separators
      obtain ⟨t, ht⟩ := hpre
      simp only [List.cons_append, List.cons.injEq] at ht
      obtain ⟨rfl, rfl⟩ := ht
      simp [List.splitOnP_cons_eq_if_modifyHead]
    · have ih := nil_mem_tail_splitOn_of_infix hin
      simp only [List.splitOn] at ih
      split
      · exact List.mem_of_mem_tail ih
      · rwa [List.tail_modifyHead]

-- ---------------------------------------------------------------------------
-- fmt.Sscanf with %d
-- ---------------------------------------------------------------------------

/-- `isSpace` of package `fmt`. -/
def fmtIsSpace (c : Char) : Bool :=
  let r := c.toNat
  (0x09 ≤ r && r ≤ 0x0d) || r == 0x20 || r == 0x85 || r == 0xa0 || r == 0x1680 ||
    (0x2000 ≤ r && r ≤ 0x200a) || r == 0x2028 || r == 0x2029 || r == 0x202f || r == 0x205f ||
    r == 0x3000

/-- `SkipSpace` of a scan in which newlines are not spaces. -/
def skipSpace : List Char → Except String (List Char)
  | [] => .ok []
  | c :: rest =>
    -- a carriage return before a newline is dropped, and the newline is an error
    if c = '\n' ∨ (c = '\r' ∧ rest.head? = some '\n') then .error "unexpected newline"
    else if fmtIsSpace c then skipSpace rest
    else .ok (c :: rest)

/-- `strconv.ParseInt(tok, 10, 64)`. -/
def parseInt10 (tok : List Char) : Except String Int64 :=
  let (neg, body) : Bool × List Char :=
    match tok with
    | '+' :: b => (false, b)
    | '-' :: b => (true, b)
    | b => (false, b)
  if body = [] ∨ body.any (fun c => !c.isDigit) then .error "invalid syntax"
  else
    let n := body.foldl (fun acc c => acc * 10 + (c.toNat - '0'.toNat)) 0
    if neg then
      if n > 2 ^ 63 then .error "value out of range" else .ok (Int64.ofInt (-(n : Int)))
    else
      if n ≥ 2 ^ 63 then .error "value out of range" else .ok (Int64.ofNat n)

/-- `fmt.Sscanf(s, "%d", &v)` with `v` an `int`. -/
def sscanfInt (s : String) : Except String Int64 := do
  let cs ← skipSpace s.toList
  if cs = [] then throw "unexpected EOF"
  let (sgn, cs) : List Char × List Char :=
    match cs with
    | c :: rest => if c = '+' ∨ c = '-' then ([c], rest) else ([], c :: rest)
    | [] => ([], [])
  let digits := cs.takeWhile Char.isDigit
  if digits = [] then throw "expected integer"
  parseInt10 (sgn ++ digits)

end GoString
