import PhoneVerification.Json.Reader
import PhoneVerification.Json.Writer
import PhoneVerification.Proofs.Text.Digits
import PhoneVerification.Proofs.Text.Octets
import PhoneVerification.Proofs.Text.Utf8
import Mathlib.Data.List.Forall2

/-!
# Strings in JSON texts

`StringLiteral` is the grammar of strings, with escapes wherever they are allowed. A string that is
given by its bytes is an `OctetLiteral`: it is read up to the quote that ends it, whatever follows
(`OctetLiteral.string?`), and it can be skipped even if its bytes are those of no text. The bytes of
a string are read as the string (`StringLiteral.octets`), and what is written for a text is a string for
it (`stringLiteral_quote`).
-/

namespace PhoneVerification.Json

open Text.Utf8 (byte octet octets)

namespace Reader

variable {s : List Char} {ps : List Piece}

/-- The texts of the parts of a string. A character stands for itself unless it is a quote, a backslash
or a control, and an escape names a character or gives a number. -/
inductive Letters : List Piece → List Char → Prop
  | nil : Letters [] []
  | plain {c : Char} {ps : List Piece} {s : List Char} (hplain : 0x20 ≤ c.toNat) (hquote : c ≠ '"')
      (hbackslash : c ≠ '\\') (h : Letters ps s) : Letters (.char c :: ps) (c :: s)
  | short {e c : Char} {ps : List Piece} {s : List Char} (he : shortEscape? e = some c)
      (h : Letters ps s) : Letters (.char c :: ps) ('\\' :: e :: s)
  | unit {a b c d : Char} {n : Nat} {ps : List Piece} {s : List Char}
      (hn : unit? a b c d = some n) (h : Letters ps s) :
      Letters (.unit n :: ps) ('\\' :: 'u' :: a :: b :: c :: d :: s)

/-- The parts of a string are read up to the quote that ends it. -/
theorem Letters.pieces? (h : Letters ps s) (rest : List Char) :
    pieces? (s ++ '"' :: rest) = some (ps, rest) := by
  induction h with
  | nil => rfl
  | plain hplain hquote hbackslash _ ih =>
      rw [List.cons_append, Reader.pieces?]
      · simp [hbackslash, Nat.not_lt.mpr hplain, ih, consPiece]
      · simpa using hquote
      all_goals
        intros
        simp_all
  | @short e c ps s he _ ih =>
      have hu : e ≠ 'u' := by
        rintro rfl
        cases he
      simp [Reader.pieces?, he, hu, ih, consPiece]
  | unit hn _ ih => simp [Reader.pieces?, hn, ih, consPiece]

/-! ## The bytes of a string -/

/-- The parts by which the bytes of a part are read. -/
def octetPieces : Piece → List Piece
  | .char c => ((String.utf8EncodeChar c).map octet).map .char
  | .unit n => [.unit n]

/-- Bytes that are no quotes, backslashes or controls stand for themselves. -/
theorem Letters.plain_octets {bytes : List UInt8}
    (hbytes : ∀ b ∈ bytes, 0x20 ≤ (octet b).toNat ∧ octet b ≠ '"' ∧ octet b ≠ '\\')
    (h : Letters ps s) :
    Letters ((bytes.map octet).map .char ++ ps) (bytes.map octet ++ s) := by
  induction bytes with
  | nil => exact h
  | cons b bytes ih =>
      obtain ⟨hplain, hquote, hbackslash⟩ := hbytes b List.mem_cons_self
      exact .plain hplain hquote hbackslash (ih fun b hb => hbytes b (List.mem_cons_of_mem _ hb))

/-- The bytes of a character that stands for itself stand for themselves. -/
theorem plain_of_mem_utf8EncodeChar {c : Char} (hplain : 0x20 ≤ c.toNat) (hquote : c ≠ '"')
    (hbackslash : c ≠ '\\') : ∀ b ∈ String.utf8EncodeChar c,
      0x20 ≤ (octet b).toNat ∧ octet b ≠ '"' ∧ octet b ≠ '\\' := by
  intro b hb
  rcases Nat.lt_or_ge c.toNat 0x80 with hascii | hbeyond
  · have hself : octet b ∈ [c] := by
      rw [← Text.Utf8.map_octet_of_ascii hascii]
      exact List.mem_map_of_mem hb
    rw [List.mem_singleton.mp hself]
    exact ⟨hplain, hquote, hbackslash⟩
  · have hlarge : 0x80 ≤ (octet b).toNat := by
      rw [Text.Utf8.toNat_octet]
      exact Text.Utf8.le_of_mem_utf8EncodeChar hbeyond b hb
    refine ⟨by omega, ?_, ?_⟩
    all_goals
      intro hc
      rw [hc] at hlarge
      exact absurd hlarge (by decide)

theorem lt_of_shortEscape? {e c : Char} (h : shortEscape? e = some c) :
    e.toNat < 0x80 ∧ c.toNat < 0x80 := by
  unfold shortEscape? at h
  split at h
  all_goals cases h
  all_goals decide

theorem octetPieces_of_ascii {c : Char} (h : c.toNat < 0x80) : octetPieces (.char c) = [.char c] := by
  rw [octetPieces, Text.Utf8.map_octet_of_ascii h, List.map_singleton]

/-- The bytes of the text of some parts are the text of the parts of the bytes. -/
theorem Letters.octets (h : Letters ps s) : Letters (ps.flatMap octetPieces) (octets s) := by
  induction h with
  | nil => exact .nil
  | plain hplain hquote hbackslash _ ih =>
      rw [List.flatMap_cons, Text.Utf8.octets_cons]
      exact plain_octets (plain_of_mem_utf8EncodeChar hplain hquote hbackslash) ih
  | short he _ ih =>
      obtain ⟨hletter, hmeant⟩ := lt_of_shortEscape? he
      rw [List.flatMap_cons, octetPieces_of_ascii hmeant,
        Text.Utf8.octets_cons_of_ascii (by decide), Text.Utf8.octets_cons_of_ascii hletter]
      exact .short he ih
  | @unit a b c d n ps s hn _ ih =>
      have hdigits := Text.lt_of_mem_of_ofDigits? hn
      simp only [List.forall_mem_cons] at hdigits
      obtain ⟨ha, hb, hc, hd, -⟩ := hdigits
      rw [List.flatMap_cons, Text.Utf8.octets_cons_of_ascii (by decide),
        Text.Utf8.octets_cons_of_ascii (by decide), Text.Utf8.octets_cons_of_ascii ha,
        Text.Utf8.octets_cons_of_ascii hb, Text.Utf8.octets_cons_of_ascii hc,
        Text.Utf8.octets_cons_of_ascii hd]
      exact .unit hn ih

/-! ## What a string denotes -/

/-- The text of the parts of a string. -/
def charText? (ps : List Piece) : Option String :=
  (assemble (fun c => [c]) (fun c => [c]) ps).map String.ofList

/-- A number with no other behind it is no half of a character. -/
theorem assemble_unit {α : Type} {plain escaped : Char → List α} {n : Nat}
    (h : ∀ m rest, ps ≠ .unit m :: rest) :
    assemble plain escaped (.unit n :: ps) = if isHighHalf n || isLowHalf n then none
      else (assemble plain escaped ps).map (escaped (Char.ofNat n) ++ ·) := by
  cases ps with
  | nil => rfl
  | cons p ps =>
      cases p with
      | char c => rfl
      | unit m => exact absurd rfl (h m ps)

/-- Bytes that are written as they are stand for themselves. -/
theorem assemble_octets (bytes : List UInt8) (ps : List Piece) :
    assemble (fun c => [byte c]) String.utf8EncodeChar ((bytes.map octet).map .char ++ ps) =
      (assemble (fun c => [byte c]) String.utf8EncodeChar ps).map (bytes ++ ·) := by
  induction bytes with
  | nil => simp
  | cons b bytes ih =>
      rw [List.map_cons, List.map_cons, List.cons_append, assemble, ih, Option.map_map]
      simp only [Function.comp_def, Text.Utf8.byte_octet, List.cons_append, List.nil_append]

theorem flatMap_octetPieces_unit (n : Nat) (ps : List Piece) :
    (Piece.unit n :: ps).flatMap octetPieces = .unit n :: ps.flatMap octetPieces :=
  rfl

theorem no_unit_flatMap (h : ∀ m rest, ps = .unit m :: rest → False) :
    ∀ m rest, ps.flatMap octetPieces ≠ .unit m :: rest := by
  intro m rest hunit
  cases ps with
  | nil => cases hunit
  | cons p ps =>
      cases p with
      | unit n => exact h n ps rfl
      | char c =>
          obtain ⟨b, bs, hbytes⟩ := List.exists_cons_of_ne_nil (String.utf8EncodeChar_ne_nil (c := c))
          rw [List.flatMap_cons, octetPieces, hbytes] at hunit
          cases (List.cons.inj hunit).1

/-- The bytes that the parts of the bytes stand for are those of the text. -/
theorem assemble_octetPieces (ps : List Piece) :
    assemble (fun c => [byte c]) String.utf8EncodeChar (ps.flatMap octetPieces) =
      (assemble (fun c => [c]) (fun c => [c]) ps).map (List.flatMap String.utf8EncodeChar) := by
  have hcons : ∀ (c : Char) (read : Option (List Char)),
      (read.map ([c] ++ ·)).map (List.flatMap String.utf8EncodeChar) =
        (read.map (List.flatMap String.utf8EncodeChar)).map (String.utf8EncodeChar c ++ ·) := by
    intro c read
    simp only [Option.map_map, Function.comp_def, List.singleton_append, List.flatMap_cons]
  fun_induction assemble (fun c : Char => [c]) (fun c => [c]) ps with
  | case1 => rfl
  | case2 c rest ih =>
      rw [List.flatMap_cons, octetPieces, assemble_octets, ih, hcons]
  | case3 high low rest hhigh hlow ih =>
      rw [flatMap_octetPieces_unit, flatMap_octetPieces_unit, assemble, if_pos hhigh, if_pos hlow,
        ih, hcons]
  | case4 high low rest hhigh hlow =>
      rw [flatMap_octetPieces_unit, flatMap_octetPieces_unit, assemble, if_pos hhigh, if_neg hlow,
        Option.map_none]
  | case5 high low rest hhigh hlow =>
      rw [flatMap_octetPieces_unit, flatMap_octetPieces_unit, assemble, if_neg hhigh, if_pos hlow,
        Option.map_none]
  | case6 high low rest hhigh hlow ih =>
      rw [flatMap_octetPieces_unit] at ih
      rw [flatMap_octetPieces_unit, flatMap_octetPieces_unit, assemble, if_neg hhigh, if_neg hlow,
        ih, hcons]
  | case7 n rest hnext h =>
      rw [flatMap_octetPieces_unit, assemble_unit (no_unit_flatMap hnext), if_pos h,
        Option.map_none]
  | case8 n rest hnext h ih =>
      rw [flatMap_octetPieces_unit, assemble_unit (no_unit_flatMap hnext), if_neg h, ih, hcons]

/-- The bytes of a string denote what the string does. -/
theorem octetText?_octetPieces (ps : List Piece) :
    octetText? (ps.flatMap octetPieces) = charText? ps := by
  rw [octetText?, charText?, assemble_octetPieces]
  cases assemble (fun c => [c]) (fun c => [c]) ps with
  | none => rfl
  | some cs =>
      have hread := Text.Utf8.decode?_encode (String.ofList cs)
      rwa [Text.Utf8.encode, String.toList_ofList] at hread

/-! ## Written strings -/

/-- A part of a string that stands for a character: the character, or the number of a control
character. -/
def Denotes (p : Piece) (c : Char) : Prop :=
  p = .char c ∨ p = .unit c.toNat ∧ c.toNat < 0x20

/-- An escape of a control character is not taken for half of another character. -/
theorem assemble_control {α : Type} {plain escaped : Char → List α} {n : Nat}
    (hn : n < 0x20) (ps : List Piece) :
    assemble plain escaped (.unit n :: ps) =
      (assemble plain escaped ps).map (escaped (Char.ofNat n) ++ ·) := by
  have hhigh : isHighHalf n = false := by
    simp only [isHighHalf, Bool.and_eq_false_iff, decide_eq_false_iff_not]
    omega
  have hlow : isLowHalf n = false := by
    simp only [isLowHalf, Bool.and_eq_false_iff, decide_eq_false_iff_not]
    omega
  cases ps with
  | nil => simp [assemble, hhigh, hlow]
  | cons p ps =>
      cases p with
      | char c => simp [assemble, hhigh, hlow]
      | unit m => rw [assemble, hhigh, hlow]; rfl

theorem assemble_of_denotes {ps : List Piece} {cs : List Char} (h : List.Forall₂ Denotes ps cs) :
    assemble (fun c => [c]) (fun c => [c]) ps = some cs := by
  induction h with
  | nil => rfl
  | cons hdenotes _ ih =>
      rcases hdenotes with rfl | ⟨rfl, hcontrol⟩
      · simp [assemble, ih]
      · rw [assemble_control hcontrol, ih, Option.map_some, Char.ofNat_toNat, List.singleton_append]

theorem unit?_smallDigit : ∀ n < 0x20,
    unit? '0' '0' (Text.smallDigit (n / 16)) (Text.smallDigit (n % 16)) = some n := by
  decide

/-- A character has a short escape, is a control character given by its number, or stands for
itself. -/
theorem escape_cases (c : Char) :
    (∃ e, shortEscape? e = some c ∧ escape c = ['\\', e]) ∨
      (c.toNat < 0x20 ∧ escape c = ['\\', 'u', '0', '0', Text.smallDigit (c.toNat / 16),
        Text.smallDigit (c.toNat % 16)]) ∨
      (0x20 ≤ c.toNat ∧ c ≠ '"' ∧ c ≠ '\\' ∧ escape c = [c]) := by
  unfold escape
  simp only [beq_iff_eq]
  split_ifs with hquote hbackslash hbackspace hfeed hline hreturn htab hcontrol
  · exact .inl ⟨'"', by simp [hquote, shortEscape?], rfl⟩
  · exact .inl ⟨'\\', by simp [hbackslash, shortEscape?], rfl⟩
  · exact .inl ⟨'b', by simp [hbackspace, shortEscape?], rfl⟩
  · exact .inl ⟨'f', by simp [hfeed, shortEscape?], rfl⟩
  · exact .inl ⟨'n', by simp [hline, shortEscape?], rfl⟩
  · exact .inl ⟨'r', by simp [hreturn, shortEscape?], rfl⟩
  · exact .inl ⟨'t', by simp [htab, shortEscape?], rfl⟩
  · exact .inr (.inl ⟨hcontrol, rfl⟩)
  · exact .inr (.inr ⟨Nat.le_of_not_lt hcontrol, hquote, hbackslash, rfl⟩)

/-- The escape of a character is the text of a part that stands for it. -/
theorem exists_letters_escape (c : Char) : ∃ p, Denotes p c ∧
    ∀ (ps : List Piece) (s : List Char), Letters ps s → Letters (p :: ps) (escape c ++ s) := by
  rcases escape_cases c with ⟨e, he, hescape⟩ | ⟨hcontrol, hescape⟩ |
    ⟨hplain, hquote, hbackslash, hescape⟩
  · refine ⟨.char c, .inl rfl, fun ps s h => ?_⟩
    rw [hescape]
    exact .short he h
  · refine ⟨.unit c.toNat, .inr ⟨rfl, hcontrol⟩, fun ps s h => ?_⟩
    rw [hescape]
    exact .unit (unit?_smallDigit c.toNat hcontrol) h
  · refine ⟨.char c, .inl rfl, fun ps s h => ?_⟩
    rw [hescape]
    exact .plain hplain hquote hbackslash h

/-- The characters of a text are written as parts that stand for them. -/
theorem exists_letters_flatMap (cs : List Char) :
    ∃ ps, List.Forall₂ Denotes ps cs ∧ Letters ps (cs.flatMap escape) := by
  induction cs with
  | nil => exact ⟨[], .nil, .nil⟩
  | cons c cs ih =>
      obtain ⟨p, hp, hmore⟩ := exists_letters_escape c
      obtain ⟨ps, hps, hletters⟩ := ih
      exact ⟨p :: ps, .cons hp hps, hmore ps _ hletters⟩

end Reader

/-- The parts between two quotes, and what they denote. -/
def Quoted (text? : List Reader.Piece → Option String) (t : Option String) (s : List Char) : Prop :=
  ∃ ps body, Reader.Letters ps body ∧ text? ps = t ∧ s = '"' :: (body ++ ['"'])

/-- A string between its quotes. One whose escapes denote no text is a string as well. -/
def StringLiteral (t : Option String) (s : List Char) : Prop :=
  Quoted Reader.charText? t s

/-- A string between its quotes that is given by its bytes. One whose bytes are those of no text is a
string as well. -/
def OctetLiteral (t : Option String) (s : List Char) : Prop :=
  Quoted Reader.octetText? t s

/-- Every string is read up to its end, also one that cannot be read as a text. -/
theorem OctetLiteral.string? {t : Option String} {s : List Char} (h : OctetLiteral t s) :
    ∃ body, s = '"' :: body ∧ ∀ rest, Reader.string? (body ++ rest) = some (t, rest) := by
  obtain ⟨ps, body, hletters, rfl, rfl⟩ := h
  refine ⟨body ++ ['"'], rfl, fun rest => ?_⟩
  rw [List.append_assoc, List.singleton_append, Reader.string?, hletters.pieces?, Option.map_some]

/-- The bytes of a string are a string, and denote the same. -/
theorem StringLiteral.octets {t : Option String} {s : List Char} (h : StringLiteral t s) :
    OctetLiteral t (octets s) := by
  obtain ⟨ps, body, hletters, rfl, rfl⟩ := h
  refine ⟨_, _, hletters.octets, Reader.octetText?_octetPieces ps, ?_⟩
  rw [Text.Utf8.octets_cons_of_ascii (by decide), Text.Utf8.octets_append,
    Text.Utf8.octets_cons_of_ascii (by decide), Text.Utf8.octets_nil]

/-- Any bytes but quotes, backslashes and controls are a string. It is the text whose bytes they are,
or can only be skipped. -/
theorem octetLiteral_of_plain {bytes : List UInt8}
    (h : ∀ b ∈ bytes, 0x20 ≤ (octet b).toNat ∧ octet b ≠ '"' ∧ octet b ≠ '\\') :
    OctetLiteral (Text.Utf8.decode? bytes) ('"' :: (bytes.map octet ++ ['"'])) := by
  refine ⟨(bytes.map octet).map .char ++ [], bytes.map octet ++ [], .plain_octets h .nil, ?_, by simp⟩
  rw [Reader.octetText?, Reader.assemble_octets]
  simp [Reader.assemble]

/-- A byte that starts no character can only be skipped. -/
example : OctetLiteral none ['"', octet 0xFF, '"'] := by
  have hnone : Text.Utf8.decode? [0xFF] = none := by decide +kernel
  rw [← hnone]
  exact octetLiteral_of_plain (List.forall_mem_singleton.mpr (by decide))

theorem stringLiteral_quote (t : Option String) : StringLiteral t (quote t) := by
  cases t with
  | none =>
      have hunit : Reader.unit? 'd' '8' '0' '0' = some 0xD800 := by decide
      have hhalf : Reader.charText? [.unit 0xD800] = none := by decide
      exact ⟨[.unit 0xD800], _, .unit hunit .nil, hhalf, rfl⟩
  | some s =>
      obtain ⟨ps, hps, hletters⟩ := Reader.exists_letters_flatMap s.toList
      refine ⟨ps, _, hletters, ?_, rfl⟩
      rw [Reader.charText?, Reader.assemble_of_denotes hps, Option.map_some, String.ofList_toList]

end PhoneVerification.Json
