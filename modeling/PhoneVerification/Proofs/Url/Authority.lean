import PhoneVerification.Proofs.Text.Digits
import PhoneVerification.Proofs.Url.WellFormed

/-!
# User, host and port are read back

What stands between the two slashes of an address and its path is found again: the user before the
last `@`, the host before the first colon that is not between brackets, and a port in base ten.
-/

namespace PhoneVerification.Url

open Percent (Encoded)

/-- Whether a character can be between the two slashes and the path. -/
def isZoneChar (c : Char) : Bool :=
  isGraphic c && !(c == '/' || c == '\\' || c == '?' || c == '#')

theorem isZoneChar_iff {c : Char} : isZoneChar c = true ↔
    isGraphic c = true ∧ c ≠ '/' ∧ c ≠ '\\' ∧ c ≠ '?' ∧ c ≠ '#' := by
  simp [isZoneChar, and_assoc]

theorem endsSegment_of_isZoneChar {c : Char} (h : isZoneChar c = true) (kind : SchemeKind) :
    Path.endsSegment kind c = false := by
  rw [isZoneChar_iff] at h
  simp [Path.endsSegment, h]

/-! ## The host -/

/-- Whether a character can be in a host without brackets. -/
def isHostChar (c : Char) : Bool :=
  isZoneChar c && !(c == '@' || c == ':' || c == '[')

theorem isHostChar_iff {c : Char} :
    isHostChar c = true ↔ isZoneChar c = true ∧ c ≠ '@' ∧ c ≠ ':' ∧ c ≠ '[' := by
  simp [isHostChar, and_assoc]

theorem isHostChar_of_isNameChar {c : Char} (h : Domain.isNameChar c = true) :
    isHostChar c = true :=
  Text.forall_ascii (P := fun c => Domain.isNameChar c = true → isHostChar c = true) (by decide)
    (Domain.isNameChar_iff.mp h).1 h

theorem isHostChar_of_isPlainChar {c : Char} (h : Host.isPlainChar c = true) :
    isHostChar c = true := by
  have hgraphic : isGraphic c = true := by
    rw [Host.isPlainChar, Bool.and_eq_true] at h
    exact h.1
  have hsmall : c.toNat < 0x80 := by
    rw [isGraphic_iff] at hgraphic
    omega
  exact Text.forall_ascii (P := fun c => Host.isPlainChar c = true → isHostChar c = true)
    (by decide) hsmall h

/-- A host stands between brackets, or has no characters that end it. -/
theorem Host.Fits.chars_cases {kind : SchemeKind} {h : Host} (hfits : Host.Fits kind h) :
    (∀ c ∈ h.chars, isHostChar c = true) ∨
      ∃ s, h.chars = '[' :: (s ++ [']']) ∧ ∀ c ∈ s, isZoneChar c = true ∧ c ≠ '@' ∧ c ≠ ']' := by
  cases hfits with
  | empty =>
      left
      intro c hc
      cases hc
  | domain _ _ hchars _ => exact .inl fun c hc => isHostChar_of_isNameChar (hchars c hc)
  | plain hchars => exact .inl fun c hc => isHostChar_of_isPlainChar (hchars c hc)
  | v4 _ n =>
      exact .inl fun c hc => isHostChar_of_isNameChar (Host.isNameChar_of_mem_v4Chars c hc).1
  | @v6 _ gs _ =>
      refine .inr ⟨Ip.v6Chars gs, rfl, fun c hc => ?_⟩
      have hdigits : ∀ d < 16, isZoneChar (Nat.digitChar d) = true ∧ Nat.digitChar d ≠ '@' ∧
          Nat.digitChar d ≠ ']' := by decide
      obtain rfl | ⟨d, hd, rfl⟩ := Ip.mem_v6Chars hc
      · decide
      · exact hdigits d hd

/-- Where a host stops. -/
def EndsHost (rest : List Char) : Prop :=
  ∀ c ∈ rest.head?, c = ':' ∨ c = '/'

theorem hostText_of_endsHost {kind : SchemeKind} {rest : List Char} (h : EndsHost rest) :
    hostText kind false rest = ([], rest) := by
  cases rest with
  | nil => rfl
  | cons c rest =>
      unfold hostText
      rcases h c rfl with rfl | rfl
      · rfl
      · simp [Path.endsSegment]

/-- A character that does not end the host belongs to it, and may open or close brackets. -/
theorem hostText_cons {kind : SchemeKind} {inside inside' : Bool} {c : Char} {s t rest : List Char}
    (hcolon : (c == ':' && !inside) = false) (hend : Path.endsSegment kind c = false)
    (hinside : (c == '[' || (inside && c != ']')) = inside')
    (hrest : hostText kind inside' s = (t, rest)) :
    hostText kind inside (c :: s) = (c :: t, rest) := by
  simp only [hostText, hcolon, hend, hinside, hrest, Bool.or_self, Bool.false_eq_true, if_false]

theorem hostText_append {kind : SchemeKind} {s rest : List Char}
    (hs : ∀ c ∈ s, c ≠ ':' ∧ c ≠ '[' ∧ Path.endsSegment kind c = false) (hrest : EndsHost rest) :
    hostText kind false (s ++ rest) = (s, rest) := by
  induction s with
  | nil => exact hostText_of_endsHost hrest
  | cons c s ih =>
      obtain ⟨⟨hcolon, hbracket, hend⟩, hs⟩ := List.forall_mem_cons.mp hs
      exact hostText_cons (by simpa using hcolon) hend (by simpa using hbracket) (ih hs)

/-- Between brackets a colon does not end the host. -/
theorem hostText_bracketed {kind : SchemeKind} {s rest : List Char}
    (hs : ∀ c ∈ s, c ≠ ']' ∧ Path.endsSegment kind c = false) (hrest : EndsHost rest) :
    hostText kind true (s ++ ']' :: rest) = (s ++ [']'], rest) := by
  induction s with
  | nil =>
      have hend : Path.endsSegment kind ']' = false := by cases kind <;> rfl
      exact hostText_cons rfl hend rfl (hostText_of_endsHost hrest)
  | cons c s ih =>
      obtain ⟨⟨hbracket, hend⟩, hs⟩ := List.forall_mem_cons.mp hs
      refine hostText_cons (by simp) hend ?_ (ih hs)
      simp [hbracket]

theorem Host.Fits.hostText {kind kind' : SchemeKind} {h : Host} (hfits : Host.Fits kind h)
    {rest : List Char} (hrest : EndsHost rest) :
    Url.hostText kind' false (h.chars ++ rest) = (h.chars, rest) := by
  obtain hname | ⟨s, hs, hinside⟩ := hfits.chars_cases
  · refine hostText_append (fun c hc => ?_) hrest
    obtain ⟨hzone, -, hcolon, hbracket⟩ := isHostChar_iff.mp (hname c hc)
    exact ⟨hcolon, hbracket, endsSegment_of_isZoneChar hzone kind'⟩
  · have hopen : Path.endsSegment kind' '[' = false := by cases kind' <;> rfl
    have hclosed : Url.hostText kind' true (s ++ ']' :: rest) = (s ++ [']'], rest) :=
      hostText_bracketed
        (fun c hc => ⟨(hinside c hc).2.2, endsSegment_of_isZoneChar (hinside c hc).1 kind'⟩) hrest
    rw [List.append_cons] at hclosed
    rw [hs]
    exact hostText_cons rfl hopen rfl hclosed

/-! ## The port -/

theorem WellFormed.fits {u : Url} (h : WellFormed u) {host : Host} (hhost : u.host = some host) :
    Host.Fits (SchemeKind.of u.scheme) host := by
  have hplace := h.place
  rw [hhost] at hplace
  generalize u.path = path at hplace
  cases hplace with
  | host hfits _ => exact hfits

end PhoneVerification.Url
