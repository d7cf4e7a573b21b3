import PhoneVerification.Proofs.Url.Encoded
import PhoneVerification.Proofs.Text.Strip
import PhoneVerification.Url.Path

/-!
# Paths from the root

A path that is read onto a path from the root is a path from the root: what is taken away leaves at
least the first slash, and what is added is encoded.
-/

namespace PhoneVerification.Url.Path

open Percent (Encoded)

/-- A path that starts with a slash and is encoded. -/
structure Rooted (path : List Char) : Prop where
  head : path.head? = some '/'
  encoded : Encoded Percent.path path

namespace Rooted

variable {kind : SchemeKind} {path t : List Char}

theorem root : Rooted ['/'] where
  head := rfl
  encoded := .cons (by decide) .nil

theorem ne_nil (h : Rooted path) : path ≠ [] := by
  rintro rfl
  cases h.head

theorem slash_mem (h : Rooted path) : '/' ∈ path :=
  List.mem_of_mem_head? h.head

theorem append (h : Rooted path) (ht : Encoded Percent.path t) : Rooted (path ++ t) where
  head := by rw [List.head?_append_of_ne_nil _ h.ne_nil, h.head]
  encoded := h.encoded.append ht

/-- What is left of a path from the root, if anything is, starts at the root. -/
theorem of_isPrefix (h : Rooted path) (ht : t <+: path) (hne : t ≠ []) : Rooted t where
  head := by
    obtain ⟨rest, rfl⟩ := ht
    rw [← h.head, List.head?_append_of_ne_nil _ hne]
  encoded := h.encoded.subset fun c hc => ht.mem hc

end Rooted

theorem directory_isPrefix (path : List Char) : directory path <+: path :=
  List.rdropWhile_prefix _ _

theorem directory_ne_nil {path : List Char} (h : '/' ∈ path) : directory path ≠ [] := by
  intro hnil
  have hall := Text.dropTail_eq_nil_iff.mp hnil '/' h
  cases hall

theorem shorten_isPrefix (kind : SchemeKind) (path : List Char) : shorten kind path <+: path := by
  unfold shorten
  split
  · exact List.prefix_rfl
  · exact directory_isPrefix path

theorem shorten_ne_nil {kind : SchemeKind} {path : List Char} (h : '/' ∈ path) :
    shorten kind path ≠ [] := by
  unfold shorten
  split
  · exact List.ne_nil_of_mem h
  · exact directory_ne_nil h

theorem above_isPrefix (kind : SchemeKind) (path : List Char) : above kind path <+: path := by
  simp only [above]
  split
  · exact (shorten_isPrefix kind _).trans (List.dropLast_prefix path)
  · exact shorten_isPrefix kind path

theorem above_ne_nil {kind : SchemeKind} {path : List Char} (h : '/' ∈ path) :
    above kind path ≠ [] := by
  simp only [above]
  split
  next hfront =>
    simp only [Bool.and_eq_true, List.contains_iff_mem] at hfront
    exact shorten_ne_nil hfront.1.2
  next => exact shorten_ne_nil h

namespace Rooted

variable {kind : SchemeKind} {path t : List Char}

theorem slash : Encoded Percent.path ['/'] :=
  root.encoded

theorem shorten (h : Rooted path) : Rooted (shorten kind path) :=
  h.of_isPrefix (shorten_isPrefix kind path) (shorten_ne_nil h.slash_mem)

theorem directory (h : Rooted path) : Rooted (directory path) :=
  h.of_isPrefix (directory_isPrefix path) (directory_ne_nil h.slash_mem)

theorem above (h : Rooted path) : Rooted (above kind path) :=
  h.of_isPrefix (above_isPrefix kind path) (above_ne_nil h.slash_mem)

theorem close (h : Rooted path) : Rooted (close path) := by
  unfold Path.close
  split
  · exact h
  · exact h.append slash

theorem oneSlash (h : Rooted path) : Rooted (oneSlash kind path) := by
  unfold Path.oneSlash
  split
  · refine ⟨rfl, .cons (slash _ List.mem_cons_self) (h.encoded.subset fun c hc => ?_)⟩
    exact (List.dropWhile_sublist _).mem hc
  · exact h

end Rooted

theorem encoded_plainDrive {s : List Char} (h : Encoded Percent.path s) :
    Encoded Percent.path (plainDrive s) := by
  unfold plainDrive
  split
  next c => exact .cons (h c List.mem_cons_self) (.cons (by decide) .nil)
  next => exact h

/-- A segment leads from a path from the root to another one. -/
theorem rooted_next {kind : SchemeKind} {r : Reading} {segment : List Char} (h : Rooted r.path)
    (hs : Encoded Percent.path segment) (slash : Bool) :
    Rooted (r.next kind segment slash).path := by
  have hpath : Rooted (if kind == .file && !segment.isEmpty && isPlainDriveLetter (r.path.drop 1)
      then close r.path else r.path) := by
    split
    · exact h.close
    · exact h
  have htail : Encoded Percent.path (if slash then ['/'] else []) := by
    split
    · exact Rooted.slash
    · exact .nil
  unfold Reading.next
  generalize (if kind == .file && !segment.isEmpty && isPlainDriveLetter (r.path.drop 1)
      then close r.path else r.path) = path at hpath
  simp only
  split
  · split
    · exact hpath.above.close
    · exact hpath.above
  · split
    · exact hpath.close
    · split
      · exact (hpath.append (encoded_plainDrive hs)).append htail
      · exact (hpath.append hs).append htail

theorem rooted_all {kind : SchemeKind} {r : Reading} {segments : List (List Char)}
    (h : Rooted r.path) (hs : ∀ s ∈ segments, Encoded Percent.path s) :
    Rooted (Reading.all kind r segments).path := by
  fun_induction Reading.all kind r segments with
  | case1 r => exact h
  | case2 r s => exact rooted_next h (hs s List.mem_cons_self) false
  | case3 r s rest hne ih =>
      refine ih (rooted_next h (hs s List.mem_cons_self) true) fun t ht => ?_
      exact hs t (List.mem_cons_of_mem s ht)

/-- Whatever is read onto a path from the root, a path from the root comes out. -/
theorem Rooted.extend {kind : SchemeKind} {path : List Char} (h : Rooted path) (s : List Char) :
    Rooted (extend kind path s) := by
  refine Rooted.oneSlash (rooted_all h fun t ht => ?_)
  obtain ⟨segment, -, rfl⟩ := List.mem_map.mp ht
  exact Percent.encoded_encode (by decide) segment

end PhoneVerification.Url.Path
