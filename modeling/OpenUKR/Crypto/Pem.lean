import OpenUKR.Crypto.Keys
import OpenUKR.Go.Map

/-!
# `encoding/pem` and `encoding/base64`

`pem.EncodeToMemory` of a block without headers: the BEGIN line, the body in
`base64.StdEncoding` broken into lines of 64 characters by `lineBreaker`, and the END line.
`lineBreak` is `lineBreaker` as a state machine over the characters the base64 encoder emits,
`used` being the length of the line it holds.

`pem.Decode` scans for a BEGIN line, reads the type, the headers and the body up to the END
line, checks the END line's type and decodes the body; a failed check resumes the scan after
the point reached (`Scan.next`). `base64.StdEncoding.Decode` skips `\r` and `\n` anywhere,
so it is `decodeQuanta` of the input without them; it is not strict about the bits the padding
drops. Byte offsets of the source become list splits: `cut` is `bytes.Cut`, and the offset of
`bytes.Index` is the length of what `cut` leaves before the separator.

`decode_encodeToMemory_append` is the round trip: whatever follows an encoded block, `Decode`
returns the block and exactly what follows.
-/

namespace OpenUKR
namespace Pem

open Crypto

/-- The bytes of an ASCII string. -/
def ascii (s : String) : Bytes := s.toList.map fun c => c.toNat.toUInt8

/-- A `pem.Block` with no headers (the code sets none). -/
structure Block where
  type : String
  bytes : Bytes
  deriving DecidableEq

/-- `encodeStd`: the alphabet of `base64.StdEncoding`. -/
def encodeStd (v : Nat) : UInt8 :=
  if v < 26 then (v + 65).toUInt8
  else if v < 52 then (v + 71).toUInt8
  else if v < 62 then (v - 4).toUInt8
  else if v = 62 then 43
  else 47

/-- The padding character `'='`. -/
def stdPadding : UInt8 := 61

/-- The four characters of the 24-bit group `v`. -/
def encodeGroup (v : Nat) : Bytes :=
  [encodeStd (v / 262144 % 64), encodeStd (v / 4096 % 64), encodeStd (v / 64 % 64),
    encodeStd (v % 64)]

/-- `base64.StdEncoding.Encode`: three bytes to four characters, the last group padded. -/
def base64Encode : Bytes → Bytes
  | b₀ :: b₁ :: b₂ :: rest =>
    encodeGroup (b₀.toNat * 65536 + b₁.toNat * 256 + b₂.toNat) ++ base64Encode rest
  | [b₀, b₁] => (encodeGroup (b₀.toNat * 65536 + b₁.toNat * 256)).take 3 ++ [stdPadding]
  | [b₀] => (encodeGroup (b₀.toNat * 65536)).take 2 ++ [stdPadding, stdPadding]
  | [] => []

/-- `pemLineLength`. -/
def pemLineLength : Nat := 64

/-- `lineBreaker`, holding `used` characters of the current line, fed the rest of the
encoder's output and then closed: a newline after every full line and after a partial last
one. -/
def lineBreak : Nat → Bytes → Bytes
  | used, [] => if used > 0 then [10] else []
  | used, c :: cs =>
    if used + 1 = pemLineLength then c :: 10 :: lineBreak 0 cs else c :: lineBreak (used + 1) cs

/-- `pem.EncodeToMemory(b)`. -/
def encodeToMemory (b : Block) : Bytes :=
  ascii "-----BEGIN " ++ ascii b.type ++ ascii "-----\n" ++ lineBreak 0 (base64Encode b.bytes) ++
    ascii "-----END " ++ ascii b.type ++ ascii "-----\n"

/-! ## Decoding -/

/-- `decodeMap` of `base64.StdEncoding`: the value of an alphabet character. -/
def decodeStd (c : UInt8) : Option Nat :=
  if 65 ≤ c ∧ c ≤ 90 then some (c.toNat - 65)
  else if 97 ≤ c ∧ c ≤ 122 then some (c.toNat - 71)
  else if 48 ≤ c ∧ c ≤ 57 then some (c.toNat + 4)
  else if c = 43 then some 62
  else if c = 47 then some 63
  else none

/-- The bytes of a group of four values. -/
def groupBytes (v₀ v₁ v₂ v₃ : Nat) : Bytes :=
  let v := v₀ * 262144 + v₁ * 4096 + v₂ * 64 + v₃
  [(v / 65536).toUInt8, (v / 256 % 256).toUInt8, (v % 256).toUInt8]

/-- The quanta of a padded base64 text without line breaks: a last quantum `xx==` or `xxx=`
gives one or two bytes; padding anywhere else, a partial quantum or a character outside the
alphabet is a `CorruptInputError`. -/
def decodeQuanta : Bytes → Option Bytes
  | a :: b :: c :: d :: rest =>
    if rest = [] ∧ c = stdPadding ∧ d = stdPadding then do
      let v₀ ← decodeStd a
      let v₁ ← decodeStd b
      pure ((groupBytes v₀ v₁ 0 0).take 1)
    else if rest = [] ∧ d = stdPadding then do
      let v₀ ← decodeStd a
      let v₁ ← decodeStd b
      let v₂ ← decodeStd c
      pure ((groupBytes v₀ v₁ v₂ 0).take 2)
    else do
      let v₀ ← decodeStd a
      let v₁ ← decodeStd b
      let v₂ ← decodeStd c
      let v₃ ← decodeStd d
      let tail ← decodeQuanta rest
      pure (groupBytes v₀ v₁ v₂ v₃ ++ tail)
  | [] => some []
  | _ => none

/-- Carriage return or line feed, which the decoder skips. -/
def isNewline (c : UInt8) : Bool := c = 10 || c = 13

/-- `base64.StdEncoding.Decode`, `none` for a `CorruptInputError`. -/
def base64Decode (src : Bytes) : Option Bytes := decodeQuanta (src.filter (!isNewline ·))

/-- Space or tab. -/
def isBlank (c : UInt8) : Bool := c = 32 || c = 9

/-- ASCII white space, as `bytes.TrimSpace` trims it. -/
def isSpace (c : UInt8) : Bool := isBlank c || c = 10 || c = 11 || c = 12 || c = 13

/-- `bytes.TrimRight(s, " \t")`. -/
def trimRight (s : Bytes) : Bytes := (s.reverse.dropWhile isBlank).reverse

/-- `bytes.TrimSpace(s)`. -/
def trimSpace (s : Bytes) : Bytes := ((s.dropWhile isSpace).reverse.dropWhile isSpace).reverse

/-- `removeSpacesAndTabs(data)`. -/
def removeSpacesAndTabs (data : Bytes) : Bytes := data.filter (!isBlank ·)

/-- `bytes.Cut(s, sep)`: the bytes before the first `sep`, and those after it. -/
def cut (s sep : Bytes) : Option (Bytes × Bytes) :=
  if sep.isPrefixOf s then some ([], s.drop sep.length)
  else
    match s with
    | [] => none
    | c :: cs => (cut cs sep).map fun r => (c :: r.1, r.2)

/-- The bytes before the first line feed, and those after it if there is one. -/
def splitLine : Bytes → Bytes × Option Bytes
  | [] => ([], none)
  | c :: cs => if c = 10 then ([], some cs) else ((splitLine cs).1.cons c, (splitLine cs).2)

/-- `getLine(data)`: the first line without its end of line and trailing blanks, and the rest. -/
def getLine (data : Bytes) : Bytes × Bytes :=
  match splitLine data with
  | (line, none) => (trimRight line, [])
  | (line, some rest) => (trimRight (if line.getLast? = some 13 then line.dropLast else line), rest)

/-- `pemStart[1:]`. -/
def beginMarker : Bytes := ascii "-----BEGIN "

/-- `pemStart`. -/
def pemStart : Bytes := ascii "\n-----BEGIN "

/-- `pemEnd`. -/
def pemEnd : Bytes := ascii "\n-----END "

/-- `pemEndOfLine`. -/
def pemEndOfLine : Bytes := ascii "-----"

/-- A string of the bytes, one character each (`string(b)` on ASCII). -/
def ofAscii (b : Bytes) : String := String.mk (b.map fun c => Char.ofNat c.toNat)

/-- A block as `Decode` returns it. -/
structure Decoded where
  type : String
  headers : GoMap String
  bytes : Bytes
  deriving DecidableEq

/-- The header loop of `Decode`, with `fuel` at least the length of `rest`: the headers and
where the body starts, or none for `return nil, data`. -/
def headerLoop : Nat → GoMap String → Bytes → Option (GoMap String × Bytes)
  | 0, _, _ => none
  | fuel + 1, hs, rest =>
    if rest = [] then none
    else
      match cut (getLine rest).1 (ascii ":") with
      | none => some (hs, rest)
      | some (key, val) =>
        headerLoop fuel (hs.insert (ofAscii (trimSpace key)) (ofAscii (trimSpace val))) (getLine rest).2

/-- The outcome of one pass of `Decode`'s loop. -/
inductive Scan
  /-- A block, and the rest of the data. -/
  | found (b : Decoded) (rest : Bytes)
  /-- `continue`, scanning on from `rest`. -/
  | next (rest : Bytes)
  /-- `return nil, data`. -/
  | stop

/-- The END line after the headers `hs`: `endIndex`, and `rest[endTrailerIndex:]`, what follows
`-----END `. With no headers the END line may come at once, without a leading newline. -/
def findEnd (hs : GoMap String) (rest : Bytes) : Option (Nat × Bytes) :=
  if hs = ∅ ∧ (pemEnd.drop 1).isPrefixOf rest then some (0, rest.drop (pemEnd.length - 1))
  else (cut rest pemEnd).map fun r => (r.1.length, r.2)

/-- One pass of `Decode`'s loop from just after a BEGIN marker. -/
def afterBegin (rest₀ : Bytes) : Scan :=
  let typeLine := (getLine rest₀).1
  let rest := (getLine rest₀).2
  if !pemEndOfLine.isSuffixOf typeLine then .next rest
  else
    let typeLine := typeLine.take (typeLine.length - pemEndOfLine.length)
    match headerLoop (rest.length + 1) ∅ rest with
    | none => .stop
    | some (hs, rest) =>
      match findEnd hs rest with
      | none => .next rest
      | some (endIndex, endTrailer) =>
        let endTrailerLen := typeLine.length + pemEndOfLine.length
        if endTrailer.length < endTrailerLen then .next rest
        else if !typeLine.isPrefixOf (endTrailer.take endTrailerLen) ||
            !pemEndOfLine.isSuffixOf (endTrailer.take endTrailerLen) then .next rest
        else if (getLine (endTrailer.drop endTrailerLen)).1 ≠ [] then .next rest
        else
          match base64Decode (removeSpacesAndTabs (rest.take endIndex)) with
          | none => .next rest
          | some bytes =>
            .found ⟨ofAscii typeLine, hs, bytes⟩ (getLine (rest.drop (endIndex + pemEnd.length - 1))).2

/-- The loop of `Decode` with `fuel` passes; each pass consumes a BEGIN marker, so the length of
the data is enough. -/
def decodeLoop : Nat → Bytes → Option (Decoded × Bytes)
  | 0, _ => none
  | fuel + 1, rest =>
    let afterMarker :=
      if beginMarker.isPrefixOf rest then some (rest.drop beginMarker.length)
      else (cut rest pemStart).map (·.2)
    match afterMarker with
    | none => none
    | some rest =>
      match afterBegin rest with
      | .found b r => some (b, r)
      | .stop => none
      | .next r => decodeLoop fuel r

/-- `pem.Decode(data)`: the first block and the rest, or nil and the whole data. -/
def decode (data : Bytes) : Option Decoded × Bytes :=
  match decodeLoop (data.length + 1) data with
  | some (b, rest) => (some b, rest)
  | none => (none, data)

example : base64Decode (ascii "TWFu\nTWE=") = some (ascii "ManMa") := by decide

example : base64Encode (ascii "Man") = ascii "TWFu" := by decide
example : base64Encode (ascii "Ma") = ascii "TWE=" := by decide

/-! ## Round trip

Every character `base64Encode` emits is a letter of the alphabet or the padding, none of them a
line break, a blank, a dash or a colon (`EncodedChar.classes`). So `lineBreak` only adds line
breaks, which the decoder skips (`filter_lineBreak`); the header loop sees no `:` in the first line;
and the first `\n-----END ` is the one after the body. -/

theorem toNat_toUInt8 (n : Nat) : n.toUInt8.toNat = n % 256 := by
  simp [Nat.toUInt8, UInt8.ofNat, UInt8.toNat]

theorem toUInt8_eq_of_toNat {n : Nat} {b : UInt8} (h : n = b.toNat) : n.toUInt8 = b :=
  UInt8.ext (by rw [toNat_toUInt8, h]; exact Nat.mod_eq_of_lt (UInt8.toNat_lt b))

/-- A character the encoder emits: a letter of the alphabet or the padding. -/
def EncodedChar (c : UInt8) : Prop := (∃ v : Fin 64, encodeStd v = c) ∨ c = stdPadding

theorem decodeStd_encodeStd : ∀ v : Fin 64, decodeStd (encodeStd v) = some v := by decide

@[simp] theorem decodeStd_encodeStd_mod (x : Nat) : decodeStd (encodeStd (x % 64)) = some (x % 64) :=
  decodeStd_encodeStd ⟨x % 64, Nat.mod_lt _ (by decide)⟩

theorem encodeStd_ne_padding : ∀ v : Fin 64, encodeStd v ≠ stdPadding := by decide

@[simp] theorem encodeStd_mod_ne_padding (x : Nat) : encodeStd (x % 64) ≠ stdPadding :=
  encodeStd_ne_padding ⟨x % 64, Nat.mod_lt _ (by decide)⟩

/-- No character the encoder emits is a line break, a blank, a dash or a colon. -/
theorem EncodedChar.classes {c : UInt8} (h : EncodedChar c) :
    isNewline c = false ∧ isBlank c = false ∧ c ≠ 45 ∧ c ≠ 58 := by
  have alphabet : ∀ v : Fin 64, isNewline (encodeStd v) = false ∧ isBlank (encodeStd v) = false ∧
      encodeStd v ≠ 45 ∧ encodeStd v ≠ 58 := by decide
  rcases h with ⟨v, rfl⟩ | rfl
  · exact alphabet v
  · decide

theorem encodeGroup_encodedChar {v : Nat} {c : UInt8} (h : c ∈ encodeGroup v) : EncodedChar c := by
  simp only [encodeGroup, List.mem_cons, List.mem_singleton, List.not_mem_nil, or_false] at h
  rcases h with rfl | rfl | rfl | rfl <;> exact .inl ⟨⟨_, Nat.mod_lt _ (by decide)⟩, rfl⟩

theorem base64Encode_encodedChar {bs : Bytes} {c : UInt8} (h : c ∈ base64Encode bs) :
    EncodedChar c := by
  induction bs using base64Encode.induct with
  | case1 b₀ b₁ b₂ rest ih =>
    rcases List.mem_append.1 h with h | h
    · exact encodeGroup_encodedChar h
    · exact ih h
  | case2 b₀ b₁ =>
    rcases List.mem_append.1 h with h | h
    · exact encodeGroup_encodedChar (List.mem_of_mem_take h)
    · exact .inr (List.mem_singleton.1 h)
  | case3 b₀ =>
    rcases List.mem_append.1 h with h | h
    · exact encodeGroup_encodedChar (List.mem_of_mem_take h)
    · simp only [List.mem_cons, List.mem_singleton, List.not_mem_nil, or_false, or_self] at h
      exact .inr h
  | case4 => cases h

/-- The three bytes of a 24-bit group, read back from its four values. -/
theorem groupBytes_encode (b₀ b₁ b₂ : UInt8) (v : Nat)
    (hv : v = b₀.toNat * 65536 + b₁.toNat * 256 + b₂.toNat) :
    groupBytes (v / 262144 % 64) (v / 4096 % 64) (v / 64 % 64) (v % 64) = [b₀, b₁, b₂] := by
  have h₀ := UInt8.toNat_lt b₀
  have h₁ := UInt8.toNat_lt b₁
  have h₂ := UInt8.toNat_lt b₂
  have hw : v / 262144 % 64 * 262144 + v / 4096 % 64 * 4096 + v / 64 % 64 * 64 + v % 64 = v := by
    omega
  simp only [groupBytes, hw, List.cons.injEq, and_true]
  exact ⟨toUInt8_eq_of_toNat (by omega), toUInt8_eq_of_toNat (by omega),
    toUInt8_eq_of_toNat (by omega)⟩

theorem encodeGroup_append (v : Nat) (rest : Bytes) :
    encodeGroup v ++ rest = encodeStd (v / 262144 % 64) :: encodeStd (v / 4096 % 64) ::
      encodeStd (v / 64 % 64) :: encodeStd (v % 64) :: rest := rfl

theorem encodeGroup_take_three (v : Nat) :
    (encodeGroup v).take 3 ++ [stdPadding] = [encodeStd (v / 262144 % 64), encodeStd (v / 4096 % 64),
      encodeStd (v / 64 % 64), stdPadding] := rfl

theorem encodeGroup_take_two (v : Nat) :
    (encodeGroup v).take 2 ++ [stdPadding, stdPadding] =
      [encodeStd (v / 262144 % 64), encodeStd (v / 4096 % 64), stdPadding, stdPadding] := rfl

/-- Decoding undoes `base64.StdEncoding.Encode`. -/
theorem decodeQuanta_base64Encode (bs : Bytes) : decodeQuanta (base64Encode bs) = some bs := by
  induction bs using base64Encode.induct with
  | case1 b₀ b₁ b₂ rest ih =>
    simp only [base64Encode, encodeGroup_append, decodeQuanta, encodeStd_mod_ne_padding, and_false,
      false_and, if_false, decodeStd_encodeStd_mod, ih, Option.bind_eq_bind, Option.some_bind,
      Option.pure_def, groupBytes_encode b₀ b₁ b₂ _ rfl, List.append_eq, List.nil_append]
    rfl
  | case2 b₀ b₁ =>
    have h := groupBytes_encode b₀ b₁ 0 (b₀.toNat * 65536 + b₁.toNat * 256) (by simp)
    rw [show (b₀.toNat * 65536 + b₁.toNat * 256) % 64 = 0 by omega] at h
    simp only [base64Encode, encodeGroup_take_three, decodeQuanta, encodeStd_mod_ne_padding,
      and_false, false_and, if_false, decodeStd_encodeStd_mod, Option.bind_eq_bind,
      Option.some_bind, Option.pure_def, true_and, if_true, h]
    rfl
  | case3 b₀ =>
    have h := groupBytes_encode b₀ 0 0 (b₀.toNat * 65536) (by simp)
    rw [show b₀.toNat * 65536 / 64 % 64 = 0 by omega, show b₀.toNat * 65536 % 64 = 0 by omega] at h
    simp only [base64Encode, encodeGroup_take_two, decodeQuanta, decodeStd_encodeStd_mod,
      Option.bind_eq_bind, Option.some_bind, Option.pure_def, true_and, if_true, h]
    rfl
  | case4 => rfl

/-! ### Line breaks -/

theorem mem_lineBreak {n : Nat} {xs : Bytes} {c : UInt8} (h : c ∈ lineBreak n xs) :
    c ∈ xs ∨ c = 10 := by
  induction n, xs using lineBreak.induct with
  | case1 used hu => simp_all [lineBreak]
  | case2 used hu => simp_all [lineBreak]
  | case3 used d cs hu ih =>
    simp only [lineBreak, hu, if_true, List.mem_cons] at h
    rcases h with rfl | rfl | h
    · exact .inl (List.mem_cons_self _ _)
    · exact .inr rfl
    · exact (ih h).imp_left (List.mem_cons_of_mem _)
  | case4 used d cs hu ih =>
    simp only [lineBreak, hu, if_false, List.mem_cons] at h
    rcases h with rfl | h
    · exact .inl (List.mem_cons_self _ _)
    · exact (ih h).imp_left (List.mem_cons_of_mem _)

/-- The decoder's skipping of line breaks undoes `lineBreaker`. -/
theorem filter_lineBreak {n : Nat} {xs : Bytes} (h : ∀ c ∈ xs, isNewline c = false) :
    (lineBreak n xs).filter (!isNewline ·) = xs := by
  induction n, xs using lineBreak.induct with
  | case1 used hu => simp [lineBreak, hu, show isNewline 10 = true from rfl]
  | case2 used hu => simp [lineBreak, hu]
  | case3 used d cs hu ih =>
    have hd := h d (List.mem_cons_self _ _)
    simp [lineBreak, hu, hd, show isNewline 10 = true from rfl,
      ih fun c hc => h c (List.mem_cons_of_mem _ hc)]
  | case4 used d cs hu ih =>
    have hd := h d (List.mem_cons_self _ _)
    simp [lineBreak, hu, hd, ih fun c hc => h c (List.mem_cons_of_mem _ hc)]

/-- A non-empty output of `lineBreaker` starts with a line, of the input's characters. -/
theorem lineBreak_first_line {n : Nat} {xs : Bytes} (h : xs ≠ [] ∨ 0 < n) :
    ∃ L R, lineBreak n xs = L ++ 10 :: R ∧ ∀ c ∈ L, c ∈ xs := by
  induction n, xs using lineBreak.induct with
  | case1 used hu => exact ⟨[], [], by simp [lineBreak, hu], by simp⟩
  | case2 used hu => simp_all
  | case3 used d cs hu ih =>
    exact ⟨[d], lineBreak 0 cs, by simp [lineBreak, hu], by simp⟩
  | case4 used d cs hu ih =>
    obtain ⟨L, R, hLR, hL⟩ := ih (.inr (Nat.succ_pos _))
    refine ⟨d :: L, R, by simp [lineBreak, hu, hLR], ?_⟩
    simp only [List.mem_cons, forall_eq_or_imp, true_or, true_and]
    exact fun c hc => .inr (hL c hc)

/-- A non-empty output of `lineBreaker` ends with a line break. -/
theorem lineBreak_eq_append_newline {n : Nat} {xs : Bytes} (h : xs ≠ [] ∨ 0 < n) :
    ∃ B, lineBreak n xs = B ++ [10] := by
  induction n, xs using lineBreak.induct with
  | case1 used hu => exact ⟨[], by simp [lineBreak, hu]⟩
  | case2 used hu => simp_all
  | case3 used d cs hu ih =>
    rcases cs with _ | ⟨e, es⟩
    · exact ⟨[d], by simp [lineBreak, hu]⟩
    · obtain ⟨B, hB⟩ := ih (.inl (List.cons_ne_nil _ _))
      exact ⟨d :: 10 :: B, by rw [lineBreak, if_pos hu, hB]; rfl⟩
  | case4 used d cs hu ih =>
    obtain ⟨B, hB⟩ := ih (.inr (Nat.succ_pos _))
    exact ⟨d :: B, by simp [lineBreak, hu, hB]⟩

theorem lineBreak_nil : lineBreak 0 [] = [] := rfl

/-! ### The decoder's steps on an encoded block -/

theorem splitLine_append_newline {xs : Bytes} (ys : Bytes) (h : 10 ∉ xs) :
    splitLine (xs ++ 10 :: ys) = (xs, some ys) := by
  induction xs with
  | nil => rfl
  | cons x xs ih =>
    rw [List.mem_cons, not_or] at h
    simp [splitLine, Ne.symm h.1, ih h.2]

theorem mem_of_mem_trimRight {s : Bytes} {c : UInt8} (h : c ∈ trimRight s) : c ∈ s :=
  List.mem_reverse.1 ((List.dropWhile_suffix _).subset (List.mem_reverse.1 h))

theorem getLine_append_newline {xs : Bytes} (ys : Bytes) (h : 10 ∉ xs) :
    getLine (xs ++ 10 :: ys) =
      (trimRight (if xs.getLast? = some 13 then xs.dropLast else xs), ys) := by
  rw [getLine, splitLine_append_newline ys h]

/-- A line ending in a character other than a blank or `\r` is read back whole. -/
theorem getLine_line {s : Bytes} {c : UInt8} (ys : Bytes) (h10 : 10 ∉ s ++ [c])
    (hc : isBlank c = false) (hc13 : c ≠ 13) : getLine (s ++ [c] ++ 10 :: ys) = (s ++ [c], ys) := by
  rw [getLine_append_newline ys h10]
  simp [hc13, trimRight, hc]

/-- A line ending in `-----`, as the BEGIN, END and type lines of an encoded block do. -/
theorem getLine_dashes {t : Bytes} (ys : Bytes) (h : 10 ∉ t) :
    getLine (t ++ (ascii "-----\n" ++ ys)) = (t ++ pemEndOfLine, ys) := by
  have := getLine_line (s := t ++ [45, 45, 45, 45]) (c := 45) ys (by simp [h]) rfl (by decide)
  simpa [pemEndOfLine, ascii] using this

theorem cut_singleton_eq_none {s : Bytes} {c : UInt8} (h : c ∉ s) : cut s [c] = none := by
  induction s with
  | nil => rfl
  | cons x xs ih =>
    rw [List.mem_cons, not_or] at h
    simp [cut, List.isPrefixOf, h.1, ih h.2]

/-- `bytes.Cut` finds a separator `s₀ s₁ …` that follows bytes without `s₁`. -/
theorem cut_append_sep {xs : Bytes} {s₀ s₁ : UInt8} (rest ys : Bytes) (h : s₁ ∉ xs)
    (h01 : s₀ ≠ s₁) : cut (xs ++ s₀ :: s₁ :: (rest ++ ys)) (s₀ :: s₁ :: rest) = some (xs, ys) := by
  induction xs with
  | nil => simp [cut, List.isPrefixOf_iff_prefix]
  | cons x xs ih =>
    rw [List.mem_cons, not_or] at h
    have hp : (s₀ :: s₁ :: rest).isPrefixOf (x :: (xs ++ s₀ :: s₁ :: (rest ++ ys))) = false := by
      cases xs with
      | nil => simp [List.isPrefixOf, Ne.symm h01]
      | cons y ys' =>
        have hy : s₁ ≠ y := fun e => h.2 (e ▸ List.mem_cons_self _ _)
        simp [List.isPrefixOf, hy]
    simp [cut, hp, ih h.2]

theorem headerLoop_of_no_colon {n : Nat} {hs : GoMap String} {rest : Bytes} (h : rest ≠ [])
    (hc : 58 ∉ (getLine rest).1) : headerLoop (n + 1) hs rest = some (hs, rest) := by
  simp [headerLoop, h, show ascii ":" = [58] from rfl, cut_singleton_eq_none hc]

/-- One pass of `Decode` after a BEGIN marker, when the type line is `t-----`, the header loop
ends at once, the END line is found and followed by `t-----` and a line break, and the body
decodes. -/
theorem afterBegin_eq_found {t X more bytes : Bytes} (endIndex : Nat) (h10 : 10 ∉ t)
    (hhdr : headerLoop (X.length + 1) ∅ X = some (∅, X))
    (hend : findEnd ∅ X = some (endIndex, t ++ (ascii "-----\n" ++ more)))
    (hdec : base64Decode (removeSpacesAndTabs (X.take endIndex)) = some bytes)
    (hrest : (getLine (X.drop (endIndex + 9))).2 = more) :
    afterBegin (t ++ (ascii "-----\n" ++ X)) = .found ⟨ofAscii t, ∅, bytes⟩ more := by
  have hdash : ascii "-----\n" ++ more = pemEndOfLine ++ 10 :: more := rfl
  have hlen : (t ++ pemEndOfLine).length = t.length + pemEndOfLine.length := List.length_append _ _
  have htake : (t ++ (pemEndOfLine ++ 10 :: more)).take (t.length + pemEndOfLine.length) =
      t ++ pemEndOfLine := by
    rw [← List.append_assoc]; exact List.take_left' hlen
  have hdrop : (t ++ (pemEndOfLine ++ 10 :: more)).drop (t.length + pemEndOfLine.length) =
      10 :: more := by
    rw [← List.append_assoc]; exact List.drop_left' hlen
  have hsuf : pemEndOfLine.isSuffixOf (t ++ pemEndOfLine) = true :=
    List.isSuffixOf_iff_suffix.2 (List.suffix_append _ _)
  have hpre : t.isPrefixOf (t ++ pemEndOfLine) = true :=
    List.isPrefixOf_iff_prefix.2 (List.prefix_append _ _)
  rw [hdash] at hend
  simp only [afterBegin, getLine_dashes X h10, hsuf, hlen, Nat.add_sub_cancel, List.take_left, hhdr,
    hend, htake, hdrop, hpre, hdec, hrest, show getLine (10 :: more) = ([], more) from rfl]
  simp [pemEnd, ascii, hrest]

theorem base64Encode_ne_nil {bs : Bytes} (h : bs ≠ []) : base64Encode bs ≠ [] := by
  match bs, h with
  | [_], _ | [_, _], _ | _ :: _ :: _ :: _, _ => simp [base64Encode, encodeGroup]

theorem isPrefixOf_cons_eq_false {a : UInt8} {l xs : Bytes} (ys : Bytes) (hx : xs ≠ [])
    (h : a ∉ xs) : (a :: l).isPrefixOf (xs ++ ys) = false := by
  obtain ⟨x, xs, rfl⟩ := List.exists_cons_of_ne_nil hx
  simp [List.isPrefixOf, List.ne_of_not_mem_cons h]

/-- The decoder after the BEGIN marker of an encoded block with an empty body. -/
theorem afterBegin_encoded_nil {t : Bytes} (more : Bytes) (h10 : 10 ∉ t) (h58 : 58 ∉ t) :
    afterBegin (t ++ (ascii "-----\n" ++ (ascii "-----END " ++ (t ++ (ascii "-----\n" ++ more))))) =
      .found ⟨ofAscii t, ∅, []⟩ more := by
  have hdrop : (ascii "-----END " ++ (t ++ (ascii "-----\n" ++ more))).drop 9 =
      t ++ (ascii "-----\n" ++ more) := List.drop_left' rfl
  refine afterBegin_eq_found 0 h10 (headerLoop_of_no_colon (by simp [ascii]) ?_) ?_
    rfl (by rw [hdrop, getLine_dashes _ h10])
  · rw [← List.append_assoc, getLine_dashes _ (List.not_mem_append (by decide) h10)]
    exact List.not_mem_append (List.not_mem_append (by decide) h58) (by decide)
  · simp only [findEnd, show pemEnd.drop 1 = ascii "-----END " from rfl,
      List.isPrefixOf_iff_prefix.2 (List.prefix_append _ _), and_self, if_true]
    rw [show pemEnd.length - 1 = 9 from rfl, hdrop]

/-- The decoder after the BEGIN marker of an encoded block with a non-empty body. -/
theorem afterBegin_encoded_cons {t bytes : Bytes} (more : Bytes) (hb : bytes ≠ []) (h10 : 10 ∉ t) :
    afterBegin (t ++ (ascii "-----\n" ++ (lineBreak 0 (base64Encode bytes) ++
      (ascii "-----END " ++ (t ++ (ascii "-----\n" ++ more)))))) =
      .found ⟨ofAscii t, ∅, bytes⟩ more := by
  set T := t ++ (ascii "-----\n" ++ more)
  have henc := base64Encode_ne_nil hb
  have hbody : ∀ c ∈ lineBreak 0 (base64Encode bytes),
      isNewline c = false ∧ isBlank c = false ∧ c ≠ 45 ∧ c ≠ 58 ∨ c = 10 := fun c hc =>
    (mem_lineBreak hc).imp_left fun h => (base64Encode_encodedChar h).classes
  have hbody₄₅ : 45 ∉ lineBreak 0 (base64Encode bytes) := fun h => by
    rcases hbody 45 h with h | h
    · exact h.2.2.1 rfl
    · exact absurd h (by decide)
  obtain ⟨B, hB⟩ := lineBreak_eq_append_newline (n := 0) (.inl henc)
  obtain ⟨L, R, hLR, hL⟩ := lineBreak_first_line (n := 0) (.inl henc)
  have hencL : ∀ c ∈ L, isNewline c = false ∧ isBlank c = false ∧ c ≠ 45 ∧ c ≠ 58 :=
    fun c hc => (base64Encode_encodedChar (hL c hc)).classes
  have hX : lineBreak 0 (base64Encode bytes) ++ (ascii "-----END " ++ T) =
      B ++ 10 :: 45 :: (ascii "----END " ++ T) := by
    rw [hB, List.append_assoc]; rfl
  have hB₄₅ : 45 ∉ B := fun h => hbody₄₅ (hB ▸ List.mem_append_left _ h)
  refine afterBegin_eq_found B.length h10
    (headerLoop_of_no_colon (by rw [hX]; simp) ?_) ?_ ?_ ?_
  · rw [hLR, List.append_assoc, List.cons_append,
      getLine_append_newline _ fun h => by simpa [isNewline] using (hencL 10 h).1]
    intro h
    have h' := mem_of_mem_trimRight h
    split_ifs at h' with hlast
    · exact (hencL 58 (List.mem_of_mem_dropLast h')).2.2.2 rfl
    · exact (hencL 58 h').2.2.2 rfl
  · have hpre := isPrefixOf_cons_eq_false (l := ascii "----END ") (ascii "-----END " ++ T)
      (by simp [hB]) hbody₄₅
    rw [findEnd, if_neg fun h => by
      simp [show pemEnd.drop 1 = 45 :: ascii "----END " from rfl, hpre] at h]
    rw [show pemEnd = 10 :: 45 :: ascii "----END " from rfl, hX, cut_append_sep _ _ hB₄₅ (by decide)]
    rfl
  · rw [hX, List.take_left, removeSpacesAndTabs, List.filter_eq_self.2 fun c hc => ?_]
    · have hfilter : (lineBreak 0 (base64Encode bytes)).filter (!isNewline ·) = base64Encode bytes :=
        filter_lineBreak fun c hc => (base64Encode_encodedChar hc).classes.1
      rw [hB, List.filter_append, List.filter_singleton, show isNewline 10 = true from rfl,
        Bool.not_true, cond_false, List.append_nil] at hfilter
      rw [base64Decode, hfilter, decodeQuanta_base64Encode]
    · rcases hbody c (hB ▸ List.mem_append_left _ hc) with h | rfl
      · simp [h.2.1]
      · rfl
  · rw [hX, List.drop_append]
    show (getLine ((32 :: t) ++ (ascii "-----\n" ++ more))).2 = more
    rw [getLine_dashes _ (List.not_mem_cons_of_ne_of_not_mem (by decide) h10)]

/-- `pem.Decode` of an encoded block followed by any bytes returns the block, without headers, and
exactly the bytes that follow it. -/
theorem decode_encodeToMemory_append (b : Block) (more : Bytes) (h10 : 10 ∉ ascii b.type)
    (h58 : 58 ∉ ascii b.type) :
    decode (encodeToMemory b ++ more) = (some ⟨ofAscii (ascii b.type), ∅, b.bytes⟩, more) := by
  have hafter : afterBegin (ascii b.type ++ (ascii "-----\n" ++ (lineBreak 0 (base64Encode b.bytes) ++
      (ascii "-----END " ++ (ascii b.type ++ (ascii "-----\n" ++ more)))))) =
      .found ⟨ofAscii (ascii b.type), ∅, b.bytes⟩ more := by
    rcases eq_or_ne b.bytes [] with hb | hb
    · rw [hb]; exact afterBegin_encoded_nil more h10 h58
    · exact afterBegin_encoded_cons more hb h10
  have hbegin : ascii "-----BEGIN " = beginMarker := rfl
  simp only [decode, encodeToMemory, List.append_assoc, hbegin, decodeLoop,
    List.isPrefixOf_iff_prefix.2 (List.prefix_append _ _), if_true, List.drop_left, hafter]

end Pem
end OpenUKR
