import PhoneVerification.Http.Form
import PhoneVerification.Proofs.Text.Utf8
import PhoneVerification.Proofs.Url.Encoded
import Mathlib.Data.List.Basic

/-!
# Reading a form back

What is written into the body of a form is read back from it (`decode_encode`). Each character is read
back whatever follows it, so a text is; and no mark between pairs or within a pair is left in a text, so
the pairs are cut where they were joined.
-/

namespace PhoneVerification

namespace Http.Form

/-! ## Characters of a body -/

theorem eq_or_isPlain_of_mem_char {c d : Char} (h : d ∈ Url.Percent.char c) :
    d = '%' ∨ isPlain d = true := by
  have hall : (Url.Percent.byteChars.all fun d => d == '%' || isPlain d) = true := by decide
  simpa using List.all_eq_true.mp hall d (Url.Percent.mem_byteChars h)

/-- A text is written with plain characters and two marks of its own. -/
theorem eq_or_isPlain_of_mem_encodeText {c : Char} {s : String} (h : c ∈ encodeText s) :
    c = '+' ∨ c = '%' ∨ isPlain c = true := by
  obtain ⟨d, -, hc⟩ := List.mem_flatMap.mp h
  unfold encodeChar at hc
  split at hc
  next hplain =>
    obtain rfl := List.mem_singleton.mp hc
    exact .inr (.inr hplain)
  next =>
    split at hc
    next => exact .inl (List.mem_singleton.mp hc)
    next => exact .inr (eq_or_isPlain_of_mem_char hc)

/-- The marks between pairs and within a pair are none of these characters. -/
theorem not_mem_encodeText {c : Char} (hc : c = '&' ∨ c = '=') (s : String) : c ∉ encodeText s := by
  intro h
  have hchar := eq_or_isPlain_of_mem_encodeText h
  rcases hc with rfl | rfl
  · exact absurd hchar (by decide)
  · exact absurd hchar (by decide)

/-! ## Reading a text back -/

/-- With the spaces that are meant. -/
def spaced (s : List Char) : List Char :=
  s.map fun c => if c == '+' then ' ' else c

@[simp] theorem spaced_append (s t : List Char) : spaced (s ++ t) = spaced s ++ spaced t :=
  List.map_append

theorem spaced_of_plain {s : List Char} (h : ∀ c ∈ s, c = '%' ∨ isPlain c = true) :
    spaced s = s := by
  have hid : ∀ c ∈ s, (if c == '+' then ' ' else c) = c := by
    intro c hc
    have hne : c ≠ '+' := by
      rintro rfl
      exact absurd (h _ hc) (by decide)
    simp [hne]
  exact (List.map_congr_left hid).trans (List.map_id' s)

theorem decode_spaced_encodeChar (c : Char) (rest : List Char) :
    Url.Percent.decode (spaced (encodeChar c ++ rest)) =
      String.utf8EncodeChar c ++ Url.Percent.decode (spaced rest) := by
  unfold encodeChar
  split
  next hplain =>
    have hc : c ≠ '%' := by
      rintro rfl
      exact absurd hplain (by decide)
    have hsame : spaced [c] = [c] := spaced_of_plain (by simp [hplain])
    rw [spaced_append, hsame, List.singleton_append, Url.Percent.decode_cons hc]
  next =>
    split
    next hspace =>
      obtain rfl : c = ' ' := by simpa using hspace
      exact Url.Percent.decode_cons (by decide) _
    next =>
      rw [spaced_append, spaced_of_plain fun d hd => eq_or_isPlain_of_mem_char hd,
        Url.Percent.decode_char]

theorem decodeText_encodeText (s : String) : decodeText (encodeText s) = s := by
  have hbytes : Url.Percent.decode (spaced (encodeText s)) = Text.Utf8.encode s := by
    unfold encodeText Text.Utf8.encode
    induction s.toList with
    | nil => rfl
    | cons c cs ih => rw [List.flatMap_cons, decode_spaced_encodeChar, ih, List.flatMap_cons]
  calc
    decodeText (encodeText s) = Text.Utf8.decodeLossy (Text.Utf8.encode s) :=
      congrArg Text.Utf8.decodeLossy hbytes
    _ = s := Text.Utf8.decodeLossy_encode s

/-! ## Reading the pairs back -/

theorem decodePair_encodePair (pair : String × String) : decodePair (encodePair pair) = pair := by
  have hname : ∀ c ∈ encodeText pair.1, (c != '=') = true := by
    intro c hc
    rw [bne_iff_ne]
    rintro rfl
    exact not_mem_encodeText (.inr rfl) _ hc
  simp only [decodePair, encodePair]
  rw [List.takeWhile_append_of_pos hname, List.dropWhile_append_of_pos hname]
  simp [decodeText_encodeText]

theorem not_mem_encodePair (pair : String × String) : '&' ∉ encodePair pair := by
  have hname := not_mem_encodeText (.inl rfl) pair.1
  have hvalue := not_mem_encodeText (.inl rfl) pair.2
  simp [encodePair, hname, hvalue]

theorem encodePair_ne_nil (pair : String × String) : encodePair pair ≠ [] := by
  simp [encodePair]

theorem splitOn_encode {pairs : List (String × String)} (h : pairs ≠ []) :
    (encode pairs).toList.splitOn '&' = pairs.map encodePair := by
  have hmark : ∀ s ∈ pairs.map encodePair, '&' ∉ s := by
    intro s hs
    obtain ⟨pair, -, rfl⟩ := List.mem_map.mp hs
    exact not_mem_encodePair pair
  rw [encode, String.toList_ofList]
  exact List.splitOn_intercalate '&' hmark (by simpa using h)

/-- The pairs of a body are those it was written with, in their order, whatever they hold. -/
theorem decode_encode (pairs : List (String × String)) : decode (encode pairs) = pairs := by
  cases pairs with
  | nil => rfl
  | cons pair rest =>
      have hparts : ((pair :: rest).map encodePair).filter (fun s => !s.isEmpty) =
          (pair :: rest).map encodePair := by
        refine List.filter_eq_self.mpr fun s hs => ?_
        obtain ⟨p, -, rfl⟩ := List.mem_map.mp hs
        simpa using encodePair_ne_nil p
      have hread : decodePair ∘ encodePair = id := funext decodePair_encodePair
      rw [decode, splitOn_encode (List.cons_ne_nil _ _), hparts, List.map_map, hread, List.map_id]

theorem encode_injective : Function.Injective encode :=
  Function.LeftInverse.injective decode_encode

end Http.Form

end PhoneVerification
