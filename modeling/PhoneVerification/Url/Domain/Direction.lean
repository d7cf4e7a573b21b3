import PhoneVerification.Text.Blank
import PhoneVerification.Text.Category

/-!
# Direction of host names

Letters of some scripts are written from right to left. A name with such letters is refused where
its labels could be shown in an order that misleads.
-/

namespace PhoneVerification.Url.Domain

open Text (CharSet)

/-- How a character takes part in the direction of a text. -/
inductive Direction
  | leftToRight
  | rightToLeft
  | european
  | arabic
  | neutral
  | mark
  | separator
  deriving DecidableEq, Repr

namespace Direction

/-- Letters written from right to left. -/
def rightToLeftLetters : CharSet :=
  .ofText "
    590 5BE 5C0 5C3 5C6 5C8-5FF 608 60B 60D 61B-64A 66D-66F 671-6D5 6E5-6E6 6EE-6EF 6FA-710
    712-72F 74B-7A5 7B1-7EA 7F4-7F5 7FA-7FC 7FE-815 81A 824 828 82E-858 85C-88F 892-896 8A0-8C9
    200F FB1D FB1F-FB28 FB2A-FBC2 FBD3-FD3D FD50-FD8F FD92-FDC7 FDF0-FDFC FE70-FEFE 10800-1091E
    10920-10A00 10A04 10A07-10A0B 10A10-10A37 10A3B-10A3E 10A40-10AE4 10AE7-10B38 10B40-10D23
    10D28-10D2F 10D3A-10D3F 10D4A-10D68 10D6F-10E5F 10E7F-10EAA 10EAD-10ECF 10ED9-10EF9
    10F00-10F45 10F51-10F81 10F86-10FFF 1E800-1E8CF 1E8D7-1E943 1E94B-1EEEF 1EEF2-1EFFF"

/-- The usual digits and their variants. -/
def europeanDigits : CharSet :=
  .ofText "
    30-39 B2-B3 B9 6F0-6F9 2070 2074-2079 2080-2089 2488-249B FF10-FF19 102E1-102FB 1CCF0-1CCF9
    1D7CE-1D7FF 1F100-1F10A 1FBF0-1FBF9"

/-- The digits that go with Arabic letters. -/
def arabicDigits : CharSet :=
  .ofText "
    600-605 660-669 66B-66C 6DD 890-891 8E2 10D30-10D39 10D40-10D49 10E60-10E7E"

/-- Signs without a direction of their own. -/
def neutrals : CharSet :=
  .ofText "
    0-8 E-1B 21-2F 3A-40 5B-60 7B-84 86-A9 AB-B1 B4 B6-B8 BB-BF D7 F7 2B9-2BA 2C2-2CF 2D2-2DF
    2E5-2ED 2EF-2FF 374-375 37E 384-385 387 3F6 58A 58D-58F 606-607 609-60A 60C 60E-60F 66A 6DE
    6E9 7F6-7F9 9F2-9F3 9FB AF1 BF3-BFA C78-C7E E3F F3A-F3D 1390-1399 1400 169B-169C 17DB
    17F0-17F9 1800-180A 180E 1940 1944-1945 19DE-19FF 1FBD 1FBF-1FC1 1FCD-1FCF 1FDD-1FDF 1FED-1FEF
    1FFD-1FFE 200B-200D 2010-2027 202F-205E 2060-2065 206A-206F 207A-207E 208A-208E 20A0-20CF
    2100-2101 2103-2106 2108-2109 2114 2116-2118 211E-2123 2125 2127 2129 212E 213A-213B 2140-2144
    214A-214D 2150-215F 2189-218B 2190-2335 237B-2394 2396-2429 2440-244A 2460-2487 24EA-26AB
    26AD-27FF 2900-2B73 2B76-2BFF 2CE5-2CEA 2CF9-2CFF 2E00-2E5D 2E80-2E99 2E9B-2EF3 2F00-2FD5
    2FF0-2FFF 3001-3004 3008-3020 3030 3036-3037 303D-303F 309B-309C 30A0 30FB 31C0-31E5 31EF
    321D-321E 3250-325F 327C-327E 32B1-32BF 32CC-32CF 3377-337A 33DE-33DF 33FF 4DC0-4DFF A490-A4C6
    A60D-A60F A673 A67E-A67F A700-A721 A788 A828-A82B A838-A839 A874-A877 AB6A-AB6B FB29 FBC3-FBD2
    FD3E-FD4F FD90-FD91 FDC8-FDEF FDFD-FDFF FE10-FE19 FE30-FE52 FE54-FE66 FE68-FE6B FEFF FF01-FF0F
    FF1A-FF20 FF3B-FF40 FF5B-FF65 FFE0-FFE6 FFE8-FFEE FFF0-FFFF 10101 10140-1018C 10190-1019C
    101A0 1091F 10B39-10B3F 10D6E 10ED0-10ED8 11052-11065 11660-1166C 11FD5-11FF1 16FE2
    1BCA0-1BCA3 1CC00-1CCD5 1CCFA-1CCFC 1CD00-1CEB3 1CEBA-1CED0 1CEE0-1CEF0 1D173-1D17A
    1D1E9-1D1EA 1D200-1D241 1D245 1D300-1D356 1D6C1 1D6DB 1D6FB 1D715 1D735 1D74F 1D76F 1D789
    1D7A9 1D7C3 1E2FF 1EEF0-1EEF1 1F000-1F02B 1F030-1F093 1F0A0-1F0AE 1F0B1-1F0BF 1F0C1-1F0CF
    1F0D1-1F0F5 1F10B-1F10F 1F12F 1F16A-1F16F 1F1AD 1F260-1F265 1F300-1F6D8 1F6DC-1F6EC
    1F6F0-1F6FC 1F700-1F7D9 1F7E0-1F7EB 1F7F0 1F800-1F80B 1F810-1F847 1F850-1F859 1F860-1F887
    1F890-1F8AD 1F8B0-1F8BB 1F8C0-1F8C1 1F8D0-1F8D8 1F900-1FA57 1FA60-1FA6D 1FA70-1FA7C
    1FA80-1FA8A 1FA8E-1FAC6 1FAC8 1FACD-1FADC 1FADF-1FAEA 1FAEF-1FAF8 1FB00-1FB92 1FB94-1FBEF
    1FBFA 1FFFE-1FFFF 2FFFE-2FFFF 3FFFE-3FFFF 4FFFE-4FFFF 5FFFE-5FFFF 6FFFE-6FFFF 7FFFE-7FFFF
    8FFFE-8FFFF 9FFFE-9FFFF AFFFE-AFFFF BFFFE-BFFFF CFFFE-CFFFF DFFFE-E00FF E01F0-E0FFF
    EFFFE-EFFFF FFFFE-FFFFF 10FFFE-10FFFF"

/-- Blanks, and what begins or ends a part with a direction of its own. -/
def separators : CharSet :=
  .ofText "
    9-D 1C-20 85 1680 2000-200A 2028-202E 205F 2066-2069 3000"

/-- Marks that are treated as letters. -/
def letterMarks : CharSet :=
  .ofText "CBF CC6 11A07-11A08 11C3F"

/-- The part that a character takes. -/
def of (c : Char) : Direction :=
  if rightToLeftLetters.contains c then rightToLeft
  else if europeanDigits.contains c then european
  else if arabicDigits.contains c then arabic
  else if separators.contains c then separator
  else if neutrals.contains c then neutral
  else if Text.isNonspacing c && !letterMarks.contains c then mark
  else leftToRight

/-- Whether a character makes the directions of a name matter. -/
def decidesOrder (c : Char) : Bool :=
  0x590 ≤ c.toNat && (of c == rightToLeft || of c == arabic)

/-- Whether the rest of a label may follow a letter written from left to right. Marks at the end
do not count. -/
def fitsLeftToRight (rest : List Direction) : Bool :=
  match rest.getLast? with
  | none => true
  | some last =>
    (last == leftToRight || last == european) &&
      rest.all fun d => d == leftToRight || d == european || d == neutral || d == mark

/-- Whether the rest of a label may follow a letter written from right to left. Digits of both
kinds do not go together. -/
def fitsRightToLeft (rest : List Direction) : Bool :=
  match rest.getLast? with
  | none => true
  | some last =>
    (last == rightToLeft || last == european || last == arabic) &&
      (rest.all fun d => d != leftToRight && d != separator) &&
        !(rest.contains european && rest.contains arabic)

/-- Whether a label may stand in a name of both directions. -/
def fits (label : List Char) : Bool :=
  match label.map of with
  | [] => true
  | leftToRight :: rest => fitsLeftToRight (Text.dropTail (· == mark) rest)
  | rightToLeft :: rest => fitsRightToLeft (Text.dropTail (· == mark) rest)
  | _ => false

/-- Whether the labels of a name fit together. -/
def allFit (labels : List (List Char)) : Bool :=
  !(labels.any fun label => label.any decidesOrder) || labels.all fits

end Direction

end PhoneVerification.Url.Domain
